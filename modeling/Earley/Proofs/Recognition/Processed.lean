import Earley.Proofs.Recognition.Placement
import Earley.Proofs.Recognition.Progress

/-!
# Which slots have been taken up

Whether a slot has been taken up is read off its id and its position. The answer is exact: it is yes for
the slots of the current column before the cursor, and for no others. An alternative that finds its slot
taken up is followed at once; any other alternative is there when its slot is taken up.

Main statement: `taken_up_test_is_exact`.
-/

namespace Earley

/-- An alternative has entered the arena, and its slot is the one of its key. -/
theorem Chart.Inserts.slotOf?_merged {chart chart' : Chart} {item : Item} {policy : AmbiguityPolicy}
    {slot alternative : ItemId}
    (h : chart.Inserts item policy (.merged slot alternative) chart') :
    item ∈ chart'.arena ∧ chart'.slotOf? item.stop item.key = some slot := by
  cases h with
  | merged hslot =>
    rw [slotOf?_addAlternative]
    exact ⟨Array.mem_push_self, hslot⟩

namespace Recognition

theorem mem_take_iff_getElem? {α : Type} {l : List α} {count : Nat} {a : α} :
    a ∈ l.take count ↔ ∃ index < count, l[index]? = some a := by
  rw [List.mem_iff_getElem?]
  constructor
  · rintro ⟨index, hindex⟩
    rw [List.getElem?_take] at hindex
    split_ifs at hindex with hlt
    exact ⟨index, hlt, hindex⟩
  · rintro ⟨index, hlt, hindex⟩
    exact ⟨index, by rw [List.getElem?_take, if_pos hlt, hindex]⟩

variable {T N H Tok : Type} [DecidableEq N] {s s' : State N} {position : Nat} {slot : ItemId}

/-- The slot stands in the current column before the cursor. -/
def State.StandsBeforeCursor (s : State N) (chart : Chart) (slot : ItemId) : Prop :=
  ∃ index < s.cursor, (chart.slotsAt s.position)[index]? = some slot

/-- The next step takes up this slot. -/
structure State.TakesUp (s : State N) (position : Nat) (slot : ItemId) : Prop where
  agenda_eq : s.agenda = []
  position_eq : s.position = position
  slot_eq : (s.chart.slotsAt position)[s.cursor]? = some slot

variable [Terminal T Tok] {r : Recognition T N H Tok}

/-- What an insertion has to do with the slots taken up so far. -/
structure FollowsExactly (r : Recognition T N H Tok) (s : State N) (item : Item) (agenda : List Item)
    (insertion : Insertion) (chart : Chart) : Prop where
  /-- The test answers for each slot of the chart, whichever its column is. -/
  test : ∀ {stop : Nat} {slot : ItemId}, slot ∈ chart.slotsAt stop →
    ∃ taken, isProcessed chart s.position s.processed slot = .ok taken ∧
      (taken = true ↔ stop = s.position ∧ s.StandsBeforeCursor chart slot)
  followed : ∀ {slot alternative : ItemId}, insertion = .merged slot alternative →
    s.StandsBeforeCursor chart slot →
    ∃ items, r.followUps s.position s.nullable item = .ok items ∧
      r.step s = .ok (.running { s with chart, agenda := items ++ agenda })
  /-- An alternative that is not followed waits in its slot until that is taken up. -/
  waiting : ∀ {slot alternative : ItemId}, insertion = .merged slot alternative →
    ¬ s.StandsBeforeCursor chart slot →
    r.step s = .ok (.running { s with chart, agenda }) ∧
      (item.stop = s.position + 1 ∨
        ∃ index, s.cursor ≤ index ∧ (chart.slotsAt s.position)[index]? = some slot) ∧
      (∃ later, Relation.ReflTransGen r.Leads { s with chart, agenda } later ∧
        later.TakesUp item.stop slot) ∧
      ∀ {later : State N}, Relation.ReflTransGen r.Leads { s with chart, agenda } later →
        later.TakesUp item.stop slot →
        ∃ derivations, later.chart.derivationItems slot = .ok derivations ∧ item ∈ derivations

/-- A step by which a slot comes to be taken up takes it up. -/
theorem Leads.takesUp (hs : r.Reachable s) (hleads : r.Leads s s')
    (hslot : slot ∈ s.chart.slotsAt position) (hbefore : ¬ s.HasTaken position slot)
    (hafter : s'.HasTaken position slot) : s.TakesUp position slot := by
  have hinvariant := hs.invariant
  cases hinvariant.transition hleads with
  | insert hagenda hinserts =>
    have hslot := (hleads.chart_extends hs).slotsAt hslot
    exact absurd (mem_slotsAt_of_hasTaken_insert hinvariant.sound hagenda hinserts
      hinvariant.tracked hslot hafter).2 hbefore
  | take hagenda hnext =>
    obtain ⟨rfl, rfl⟩ := (hasTaken_take_cases hnext hafter).resolve_left hbefore
    exact ⟨hagenda, rfl, hnext⟩
  | advance _ hcursor => exact absurd (hasTaken_of_advance hcursor hslot hafter) hbefore

/-- On the way to a state where a slot has been taken up, there is a step that takes it up. -/
theorem Reachable.exists_takesUp (hs : r.Reachable s) (hpath : Relation.ReflTransGen r.Leads s s')
    (hslot : slot ∈ s.chart.slotsAt position) (hbefore : ¬ s.HasTaken position slot)
    (hafter : s'.HasTaken position slot) :
    ∃ later, Relation.ReflTransGen r.Leads s later ∧ later.TakesUp position slot := by
  induction hpath using Relation.ReflTransGen.head_induction_on with
  | refl => exact absurd hafter hbefore
  | @head s next hleads _ ih =>
    by_cases hnext : next.HasTaken position slot
    · exact ⟨s, .refl, hleads.takesUp hs hslot hbefore hnext⟩
    · obtain ⟨later, hlater, htakes⟩ :=
        ih (hs.tail hleads) ((hleads.chart_extends hs).slotsAt hslot) hnext
      exact ⟨later, .head hleads hlater, htakes⟩

/-- Every slot is taken up. -/
theorem Reachable.exists_takesUp_of_mem (hs : r.Reachable s)
    (hslot : slot ∈ s.chart.slotsAt position) (hbefore : ¬ s.HasTaken position slot) :
    ∃ later, Relation.ReflTransGen r.Leads s later ∧ later.TakesUp position slot := by
  obtain ⟨_, last, _, hpath, hclosed⟩ := hs.invariant.finish_eq_ok
  have hlast := (hs.trans hpath).invariant
  refine hs.exists_takesUp hpath hslot hbefore ?_
  have hmem := (hs.chart_extends hpath).slotsAt hslot
  cases hlast.transition hclosed with
  | close _ hcursor hend =>
    have hlt := Chart.lt_of_mem_slotsAt hmem
    rw [hlast.sound.size_columns] at hlt
    exact State.hasTaken_of_le hcursor hmem (by omega)

/-- When a slot is taken up, an alternative that it has got before is among its derivations. -/
theorem Reachable.derivationItems_eq_ok (hs : r.Reachable s) {item : Item}
    (hitem : item ∈ s.chart.arena) (hslot : s.chart.slotOf? item.stop item.key = some slot)
    (hpath : Relation.ReflTransGen r.Leads s s') :
    ∃ derivations, s'.chart.derivationItems slot = .ok derivations ∧ item ∈ derivations := by
  have hextends := hs.chart_extends hpath
  have hwf := (hs.trans hpath).invariant.sound.wellFormed
  obtain ⟨hmem, first, hfirst, hkey⟩ := hs.invariant.sound.wellFormed.slot_key hslot
  have hmem := hextends.slotsAt hmem
  exact ⟨_, hwf.derivationItems_eq_ok hmem, (hwf.mem_derivationItems_iff hmem
    (hextends.arena hfirst)).2 ⟨hextends.mem_arena hitem, rfl, hkey.symm⟩⟩

section Insert

variable (hs : r.Reachable s) {item : Item} {agenda : List Item} {insertion : Insertion} {chart : Chart}
  (hagenda : s.agenda = item :: agenda) (hinserts : s.chart.Inserts item r.policy insertion chart)
include hs hagenda hinserts

/-- Insertions do not change which slots stand before the cursor. -/
theorem Reachable.mem_taken_iff : slot ∈ s.taken ↔ s.StandsBeforeCursor chart slot := by
  have hlt := hs.invariant.sound.agenda_stop_lt (hagenda ▸ List.mem_cons_self)
  rw [← hs.invariant.tracked.taken_insert hinserts hlt]
  exact mem_take_iff_getElem?

/-- The slots before the cursor are those that the test finds taken up. -/
theorem Reachable.isProcessed_eq_ok (hslot : slot ∈ chart.slotsAt position) :
    ∃ taken, isProcessed chart s.position s.processed slot = .ok taken ∧
      (taken = true ↔ slot ∈ s.taken) := by
  have hlt := hs.invariant.sound.agenda_stop_lt (hagenda ▸ List.mem_cons_self)
  have hwf := hinserts.wellFormed hs.invariant.sound.wellFormed hlt
  rw [hs.invariant.tracked.processed_eq, ← hs.invariant.tracked.taken_insert hinserts hlt]
  exact Recognition.isProcessed_eq_ok hwf s.position s.cursor hslot

/-- A slot that had not been taken up is not taken up by an insertion. -/
theorem Reachable.not_hasTaken_of_not_mem_taken (hnot : slot ∉ s.taken) :
    ¬ State.HasTaken { s with chart, agenda } item.stop slot := by
  have hitem : item ∈ s.agenda := hagenda ▸ List.mem_cons_self
  have htaken := hs.invariant.tracked.taken_insert hinserts (hs.invariant.sound.agenda_stop_lt hitem)
  rintro (hbefore | ⟨_, hmem⟩)
  · rcases hs.invariant.sound.agenda_stop hitem with hstop | ⟨hstop, _⟩ <;> simp only at hbefore <;>
      omega
  · exact hnot (htaken ▸ hmem)

/-- An alternative whose slot has not been taken up goes to a slot behind the cursor or to the next
    column. -/
theorem Reachable.stop_of_not_mem_taken (hslot : slot ∈ chart.slotsAt item.stop)
    (hnot : slot ∉ s.taken) :
    item.stop = s.position + 1 ∨
      ∃ index, s.cursor ≤ index ∧ (chart.slotsAt s.position)[index]? = some slot := by
  rcases hs.invariant.sound.agenda_stop (hagenda ▸ List.mem_cons_self) with hstop | ⟨hstop, _⟩
  · rw [hstop] at hslot
    obtain ⟨index, hindex⟩ := List.mem_iff_getElem?.1 hslot
    refine .inr ⟨index, Nat.le_of_not_lt fun hlt => hnot ?_, hindex⟩
    exact (hs.mem_taken_iff hagenda hinserts).2 ⟨index, hlt, hindex⟩
  · exact .inl hstop

end Insert

/-- Whenever an item enters the chart, the test tells the slots of the current column before the cursor
    from all others. An alternative of such a slot is followed at once, and nothing else is: an
    alternative of a later slot is among the derivations that are read when that slot is taken up. -/
theorem taken_up_test_is_exact (hs : r.Reachable s) {item : Item} {agenda : List Item}
    (hagenda : s.agenda = item :: agenda) :
    ∃ insertion chart, s.chart.add item r.policy = .ok (insertion, chart) ∧
      r.FollowsExactly s item agenda insertion chart := by
  have hsound := hs.invariant.sound
  have hitem : item ∈ s.agenda := hagenda ▸ List.mem_cons_self
  have hlt := hsound.agenda_stop_lt hitem
  obtain ⟨insertion, chart, hadd, hinserts⟩ := hsound.wellFormed.add_inserts hlt r.policy
  have hwf := hinserts.wellFormed hsound.wellFormed hlt
  have hstep := step_of_inserts hsound hs.invariant.tracked hagenda hinserts
  have htaken {slot : ItemId} : slot ∈ s.taken ↔ s.StandsBeforeCursor chart slot :=
    hs.mem_taken_iff hagenda hinserts
  refine ⟨insertion, chart, hadd, ?_, ?_, ?_⟩
  · intro stop slot hslot
    obtain ⟨taken, htest, hiff⟩ := hs.isProcessed_eq_ok hagenda hinserts hslot
    refine ⟨taken, htest, (hiff.trans htaken).trans ⟨fun hbefore => ?_, And.right⟩⟩
    obtain ⟨index, hindex, hhere⟩ := hbefore
    obtain ⟨first, hfirst, hstop, _⟩ := hwf.slot_item hslot
    have hend := hwf.stop_of_mem_slotsAt (List.mem_of_getElem? hhere) hfirst
    exact ⟨hstop.symm.trans hend, index, hindex, hhere⟩
  · rintro slot alternative rfl hbefore
    obtain ⟨rule, hjustified⟩ := hsound.agenda_justified hitem
    rw [lateItems, if_pos (htaken.2 hbefore)] at hstep
    exact ⟨_, r.followUps_eq_ok hjustified.rule_eq s.position s.nullable, hstep⟩
  · rintro slot alternative rfl hnot
    have hnot : slot ∉ s.taken := fun hmem => hnot (htaken.1 hmem)
    rw [lateItems, if_neg hnot] at hstep
    have hnext : r.Reachable { s with chart, agenda } := hs.tail hstep
    obtain ⟨hmem, hslot⟩ := hinserts.slotOf?_merged
    have hplace := (hwf.slot_key hslot).1
    have hbefore := hs.not_hasTaken_of_not_mem_taken hagenda hinserts hnot
    exact ⟨hstep, hs.stop_of_not_mem_taken hagenda hinserts hplace hnot,
      hnext.exists_takesUp_of_mem hplace hbefore,
      fun hpath _ => hnext.derivationItems_eq_ok hmem hslot hpath⟩

/-- The second derivation of the start symbol comes when its slot is the one that is being processed. -/
theorem taken_up_test_is_exact_unitCycle :
    unitCycle.Reachable (unitCycle.after 11) ∧
      (unitCycle.after 11).agenda = [⟨0, 1, 0, 1, [3]⟩] ∧
      ∃ insertion chart,
        (unitCycle.after 11).chart.add ⟨0, 1, 0, 1, [3]⟩ .merge = .ok (insertion, chart) ∧
        unitCycle.FollowsExactly (unitCycle.after 11) ⟨0, 1, 0, 1, [3]⟩ [] insertion chart :=
  have hreachable := unitCycle.reachable_after 11
  have hagenda : (unitCycle.after 11).agenda = [⟨0, 1, 0, 1, [3]⟩] := by decide +kernel
  ⟨hreachable, hagenda, taken_up_test_is_exact hreachable hagenda⟩

end Recognition

end Earley
