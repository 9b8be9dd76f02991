import Earley.Proofs.Recognition.Erasure
import Earley.Proofs.Recognition.Lockstep
import Earley.Proofs.Recognition.Plain

/-!
# Recognitions of the first tokens

A recognition and that of the first tokens only do the same before they come to the end of these tokens.
In the column there they still open slots for the same keys in the same order. The ids may differ, because
the longer recognition adds items to the column behind in between, and these use up ids too.

For the last column the recognitions are compared where first derivations are kept, because then a column is
nothing but its slots. Items are compared by their destinations only, which leave out backpointers.
-/

namespace Earley

namespace Recognition

variable {T N H Tok : Type} [DecidableEq N]

/-- The recognition of the first tokens. -/
def truncate (r : Recognition T N H Tok) (count : Nat) : Recognition T N H Tok :=
  { r with tokens := r.tokens.extract 0 count }

theorem getElem?_truncate (r : Recognition T N H Tok) {count position : Nat}
    (hposition : position < count) :
    (r.truncate count).tokens[position]? = r.tokens[position]? := by
  simp only [truncate, Array.getElem?_extract, Nat.zero_add]
  split_ifs with hlt
  · rfl
  · exact (Array.getElem?_eq_none (by omega)).symm

theorem size_truncate (r : Recognition T N H Tok) {count : Nat} (hcount : count ≤ r.tokens.size) :
    (r.truncate count).tokens.size = count := by
  simp only [truncate, Array.size_extract]
  omega

theorem admitsAt_truncate [Terminal T Tok] (r : Recognition T N H Tok) (count position : Nat) (t : T) :
    (r.truncate count).admitsAt position t = (decide (position < count) && r.admitsAt position t) := by
  by_cases hposition : position < count
  · simp only [admitsAt, r.getElem?_truncate hposition, hposition, decide_true, Bool.true_and]
  · have hnone : (r.truncate count).tokens[position]? = none :=
      Array.getElem?_eq_none (by simp only [truncate, Array.size_extract]; omega)
    simp only [admitsAt, hnone, hposition, decide_false, Bool.false_and]

theorem parallel_truncate (r : Recognition T N H Tok) (count : Nat) :
    r.Parallel (r.truncate count) id count where
  injective := Function.injective_id
  policy_eq := rfl
  start_eq := rfl
  rule_eq _ := rfl
  rulesFor_eq n _ := (List.map_id (r.grammar.rulesFor n)).symm
  token_eq _ := r.getElem?_truncate

/-- At the limit the shorter recognition has no token, and items that would scan one go behind the limit. -/
theorem destinations_truncate [Terminal T Tok] (r : Recognition T N H Tok) {count position : Nat}
    (hposition : position ≤ count) {keys keys' : Nat → List ItemKey}
    (hkeys : ∀ position ≤ count, keys' position = keys position) {key : ItemKey}
    (horigin : key.origin ≤ count) (heads : List N) :
    (r.truncate count).destinations position heads keys' key =
      (r.destinations position heads keys key).filter (·.1 ≤ count) := by
  have hgrammar : (r.truncate count).grammar = r.grammar := rfl
  unfold destinations
  rw [hgrammar]
  cases r.grammar.rules[key.rule]? with
  | none => rfl
  | some rule =>
    dsimp only
    rcases rule.symbol? key.dot with _ | t | n
    · simp [hkeys _ horigin, List.filter_map, Function.comp_def, hposition]
    · by_cases hadmits : r.admitsAt position t
      · by_cases hbefore : position < count
        · simp [admitsAt_truncate, hadmits, hbefore, Nat.succ_le_of_lt hbefore]
        · have hbehind : ¬ position + 1 ≤ count := mt Nat.lt_of_succ_le hbefore
          simp [admitsAt_truncate, hadmits, hbefore, hbehind]
      · simp [admitsAt_truncate, hadmits]
    · simp [List.filter_map, Function.comp_def, hposition]

/-- The other state is one of the recognition up to the limit that has the same columns up to there,
    but for the ids of the slots, and is about to insert the same items into them. -/
structure State.TruncatesTo (s s' : State N) (limit : Nat) : Prop where
  keysAt_eq : ∀ position ≤ limit, s'.chart.keysAt position = s.chart.keysAt position
  position_eq : s'.position = s.position
  cursor_eq : s'.cursor = s.cursor
  heads_eq : s'.nullable.map Prod.fst = s.nullable.map Prod.fst
  agenda_eq : s'.agenda.map Item.destination =
    (s.agenda.map Item.destination).filter (·.1 ≤ limit)

theorem truncatesTo_initial (r : Recognition T N H Tok) (count : Nat) :
    r.initial.TruncatesTo (r.truncate count).initial count where
  keysAt_eq position _ := by simp [initial, Chart.keysAt]
  position_eq := rfl
  cursor_eq := rfl
  heads_eq := rfl
  agenda_eq := by
    simp [initial, truncate, Grammar.startRules, Item.destination, List.filter_map,
      Function.comp_def]

variable [Terminal T Tok] {r : Recognition T N H Tok} {s s' next : State N} {count : Nat}

namespace State.TruncatesTo

omit [DecidableEq N] [Terminal T Tok] in
theorem agenda_eq_nil (h : s.TruncatesTo s' count) (hagenda : s.agenda = []) : s'.agenda = [] := by
  have hdestinations := h.agenda_eq
  rw [hagenda] at hdestinations
  exact List.map_eq_nil_iff.1 hdestinations

variable (hpolicy : r.policy = .keepFirst) (hs : r.Reachable s)
  (hs' : (r.truncate count).Reachable s') (h : s.TruncatesTo s' count) (hcount : s.position ≤ count)
include hpolicy hs hs' h hcount

/-- Slots of the same key yield items with the same destinations, but for those behind the limit. -/
theorem exists_yields {slot slot' : ItemId} {first first' : Item}
    (hslot : slot ∈ s.chart.slotsAt s.position) (hfirst : s.chart.arena[slot]? = some first)
    (hslot' : slot' ∈ s'.chart.slotsAt s.position) (hfirst' : s'.chart.arena[slot']? = some first')
    (hkey : first'.key = first.key) :
    ∃ items items' nullable nullable',
      r.yield s.chart s.position s.nullable slot = .ok (items, nullable) ∧
      (r.truncate count).yield s'.chart s.position s'.nullable slot' = .ok (items', nullable') ∧
      items'.map Item.destination = (items.map Item.destination).filter (·.1 ≤ count) ∧
      nullable'.map Prod.fst = nullable.map Prod.fst := by
  have hsound := hs.invariant.sound
  have hsound' := hs'.invariant.sound
  have hmem := Array.mem_of_getElem? hfirst
  have hmem' := Array.mem_of_getElem? hfirst'
  have hstop := hsound.wellFormed.stop_of_mem_slotsAt hslot hfirst
  have horigin : first.key.origin ≤ count := by
    obtain ⟨rule, hjustified⟩ := hsound.arena_justified hmem
    exact Nat.le_trans hjustified.origin_le (hstop ▸ hcount)
  obtain ⟨items, nullable, hyield, hitems, hheads⟩ := r.yield_of_plain (hs.plain hpolicy)
    hsound.wellFormed hslot hfirst hsound.ruled (hsound.origin_lt hmem) s.nullable
  obtain ⟨items', nullable', hyield', hitems', hheads'⟩ :=
    (r.truncate count).yield_of_plain (hs'.plain hpolicy) hsound'.wellFormed hslot' hfirst'
      hsound'.ruled (hsound'.origin_lt hmem') s'.nullable
  refine ⟨items, items', nullable, nullable', hyield, hyield', ?_, ?_⟩
  · rw [hitems, hitems', hkey, h.heads_eq, r.destinations_truncate hcount h.keysAt_eq horigin]
  · rw [hheads, hheads', hkey, h.heads_eq]
    rfl

omit hcount in
/-- An item that ends up to the limit enters both charts, another one the chart of the longer recognition
    only. -/
theorem insert {item : Item} {agenda : List Item} (hagenda : s.agenda = item :: agenda)
    (hleads : r.Leads s next) :
    ∃ next', (r.truncate count).Reachable next' ∧ next.TruncatesTo next' count := by
  have hi := hs.invariant
  have hi' := hs'.invariant
  have hwf := hi.sound.wellFormed
  have hstop := hi.sound.agenda_stop_lt (hagenda ▸ List.mem_cons_self)
  obtain ⟨insertion, chart, _, hinserts⟩ := hwf.add_inserts hstop r.policy
  have hstep := step_of_inserts hi.sound hi.tracked hagenda hinserts
  rw [lateItems_of_inserts hinserts hpolicy, List.nil_append] at hstep
  obtain rfl := hleads.next_eq hstep
  have hdestinations := h.agenda_eq
  rw [hagenda, List.map_cons, List.filter_cons] at hdestinations
  split_ifs at hdestinations with hlimit
  · obtain ⟨item', agenda', hagenda', hdestination, hrest⟩ := List.map_eq_cons_iff.1 hdestinations
    obtain ⟨hstopSame, hkey⟩ := Prod.mk.inj hdestination
    have hwf' := hi'.sound.wellFormed
    have hstop' := hi'.sound.agenda_stop_lt (hagenda' ▸ List.mem_cons_self)
    obtain ⟨insertion', chart', _, hinserts'⟩ := hwf'.add_inserts hstop' (r.truncate count).policy
    have hstep' := step_of_inserts hi'.sound hi'.tracked hagenda' hinserts'
    rw [lateItems_of_inserts hinserts' hpolicy, List.nil_append] at hstep'
    refine ⟨_, .tail hs' hstep', ?_, h.position_eq, h.cursor_eq, h.heads_eq, hrest⟩
    intro position hposition
    rw [hinserts.keysAt_eq hwf hstop, hinserts'.keysAt_eq hwf' hstop', h.keysAt_eq position hposition,
      hstopSame, hkey]
  · refine ⟨s', hs', ?_, h.position_eq, h.cursor_eq, h.heads_eq, hdestinations⟩
    intro position hposition
    have hbehind : ¬ item.stop ≤ count := fun hle => hlimit (decide_eq_true hle)
    rw [hinserts.keysAt_eq hwf hstop, h.keysAt_eq position hposition, if_neg fun hboth => ?_,
      List.append_nil]
    exact hbehind (hboth.1 ▸ hposition)

/-- Both recognitions take up slots of the same key. -/
theorem take (hagenda : s.agenda = []) {slot : ItemId}
    (hslot : (s.chart.slotsAt s.position)[s.cursor]? = some slot) (hleads : r.Leads s next) :
    ∃ next', (r.truncate count).Reachable next' ∧ next.TruncatesTo next' count := by
  have hsound := hs.invariant.sound
  have hsound' := hs'.invariant.sound
  have hmem := List.mem_of_getElem? hslot
  obtain ⟨first, hfirst, _⟩ := hsound.wellFormed.slot_item hmem
  have hkey := hsound.wellFormed.getElem?_keysAt hslot hfirst
  rw [← h.keysAt_eq s.position hcount] at hkey
  obtain ⟨slot', first', hslot', hfirst', hsame⟩ := hsound'.wellFormed.exists_of_getElem?_keysAt hkey
  obtain ⟨items, items', nullable, nullable', hyield, hyield', hitems, hnullable⟩ :=
    h.exists_yields hpolicy hs hs' hcount hmem hfirst (List.mem_of_getElem? hslot') hfirst' hsame
  have hagenda' : s'.agenda = [] := h.agenda_eq_nil hagenda
  rw [← h.position_eq] at hyield'
  rw [← h.position_eq, ← h.cursor_eq] at hslot'
  obtain rfl := hleads.next_eq (step_of_slot hsound hagenda hslot hyield)
  refine ⟨_, .tail hs' (step_of_slot hsound' hagenda' hslot' hyield'), h.keysAt_eq, h.position_eq,
    congrArg Nat.succ h.cursor_eq, hnullable, hitems⟩

omit hpolicy in
/-- The recognitions come to the end of a column together. -/
theorem atEnd (hend : s.AtEnd) : s'.AtEnd where
  agenda_eq := h.agenda_eq_nil hend.agenda_eq
  length_le := by
    have hlength := hend.length_le
    rw [← hs.invariant.sound.wellFormed.length_keysAt, ← h.keysAt_eq s.position hcount] at hlength
    rw [← hs'.invariant.sound.wellFormed.length_keysAt, h.position_eq, h.cursor_eq]
    exact hlength

/-- A step of the longer recognition is answered by a step of the shorter one, or by none. -/
theorem leads (hsize : count ≤ r.tokens.size) (hnext : next.position ≤ count) (hleads : r.Leads s next) :
    ∃ next', (r.truncate count).Reachable next' ∧ next.TruncatesTo next' count := by
  cases hagenda : s.agenda with
  | cons => exact h.insert hpolicy hs hs' hagenda hleads
  | nil =>
    cases hslot : (s.chart.slotsAt s.position)[s.cursor]? with
    | some => exact h.take hpolicy hs hs' hcount hagenda hslot hleads
    | none =>
      have hend : s.AtEnd := ⟨hagenda, List.getElem?_eq_none_iff.1 hslot⟩
      have hend' := h.atEnd hs hs' hcount hend
      obtain ⟨_, rfl⟩ := hleads.next_of_end hs.invariant.sound hend.agenda_eq hend.length_le
      have hmore : s'.position < (r.truncate count).tokens.size := by
        rw [r.size_truncate hsize, h.position_eq]
        exact hnext
      have hstep' := step_of_end hs'.invariant.sound hend'.agenda_eq hend'.length_le
      rw [if_pos hmore] at hstep'
      exact ⟨_, .tail hs' hstep', h.keysAt_eq, congrArg Nat.succ h.position_eq, rfl, rfl, rfl⟩

end State.TruncatesTo

/-- Up to the limit every state of a recognition has its counterpart in that of the first tokens. -/
theorem Reachable.exists_truncatesTo (hs : r.Reachable s) (hpolicy : r.policy = .keepFirst)
    (hcount : s.position ≤ count) (hsize : count ≤ r.tokens.size) :
    ∃ s', (r.truncate count).Reachable s' ∧ s.TruncatesTo s' count := by
  induction hs with
  | refl =>
    exact ⟨(r.truncate count).initial, .refl, truncatesTo_initial r count⟩
  | tail hs hleads ih =>
    have hbefore := Nat.le_trans (Leads.position_le hs hleads) hcount
    obtain ⟨s', hs', h⟩ := ih hbefore
    exact h.leads hpolicy hs hs' hbefore hsize hcount hleads

section Truncated

variable {chart chart' : Chart} (hsize : count ≤ r.tokens.size) (hchart : r.chart = .ok chart)
  (hchart' : (r.truncate count).chart = .ok chart')
include hsize hchart hchart'

/-- The chart of the first tokens shares all columns but its last with the chart of the whole input. -/
theorem sharesColumns_truncate : chart.SharesColumns chart' count := by
  cases count with
  | zero => exact Chart.sharesColumns_zero ..
  | succ position =>
    obtain ⟨s, hs, rfl, hend, hshares⟩ := exists_atEnd hchart (Nat.le_of_succ_le hsize)
    obtain ⟨s', hs', h⟩ :=
      (r.parallel_truncate (s.position + 1)).exists_reachable hs (Nat.lt_succ_self _)
    have hdone : s'.Done s.position := .inr ⟨h.position_eq.symm, h.atEnd (Nat.le_succ _) hend⟩
    have hsame : s.chart.SharesColumns s'.chart (s.position + 1) :=
      h.chart.sharesColumns.mono (Nat.le_succ _)
    exact hshares.trans (hsame.trans (hs'.chart_sharesColumns hdone hchart').symm)

/-- Where first derivations are kept, the last column has the same keys in both charts. -/
theorem keysAt_truncate_of_keepFirst (hpolicy : r.policy = .keepFirst) :
    chart'.keysAt count = chart.keysAt count := by
  obtain ⟨s, hs, rfl, hend, hshares⟩ := exists_atEnd hchart hsize
  obtain ⟨s', hs', h⟩ := hs.exists_truncatesTo hpolicy (Nat.le_refl _) hsize
  have hdone : s'.Done s.position := .inr ⟨h.position_eq.symm, h.atEnd hs hs' (Nat.le_refl _) hend⟩
  have hshares' := hs'.chart_sharesColumns hdone hchart'
  have hkeys := hshares.symm.keysAt_eq hs.invariant.sound.wellFormed (Nat.lt_succ_self _)
  have hkeys' := hshares'.symm.keysAt_eq hs'.invariant.sound.wellFormed (Nat.lt_succ_self _)
  rw [← hkeys, ← hkeys', h.keysAt_eq _ (Nat.le_refl _)]

/-- The last column of the chart of the first tokens has the same keys in the chart of the whole input. -/
theorem keysAt_truncate : chart'.keysAt count = chart.keysAt count := by
  obtain ⟨found, kept, hfound, hkept, herases⟩ := r.exists_chart_erasesTo
  obtain ⟨found', kept', hfound', hkept', herases'⟩ := (r.truncate count).exists_chart_erasesTo
  rw [hchart] at hfound
  rw [hchart'] at hfound'
  cases hfound
  cases hfound'
  have hkeys := keysAt_truncate_of_keepFirst (r := r.keepingFirst) hsize hkept hkept' rfl
  rw [← herases.keysAt_eq, ← herases'.keysAt_eq, hkeys]

end Truncated

end Recognition

end Earley
