import Earley.Proofs.Recognition.Sound

/-!
# Transitions

The bookkeeping of a recognition is exact: the slots taken up so far are the first ones of the column,
the last of them is the one taken up last, and the known empty derivations are those among them. In
a sound state with exact bookkeeping a step never fails, and it is one of four transitions.
-/

namespace Earley.Recognition

variable {T N H Tok : Type} [DecidableEq N] [Terminal T Tok]

/-- The slots of the current column that have been taken up. -/
def State.taken (s : State N) : List ItemId :=
  (s.chart.slotsAt s.position).take s.cursor

omit [DecidableEq N] [Terminal T Tok] in
theorem State.taken_take {s : State N} {slot : ItemId}
    (hslot : (s.chart.slotsAt s.position)[s.cursor]? = some slot) {nullable : List (N × ItemId)}
    {items : List Item} :
    State.taken ⟨s.chart, s.position, s.cursor + 1, some slot, nullable, items⟩ =
      s.taken ++ [slot] := by
  rw [State.taken, List.take_add_one, hslot]
  rfl

/-- A state whose bookkeeping agrees with its chart. -/
structure Tracked (r : Recognition T N H Tok) (s : State N) : Prop where
  cursor_le : s.cursor ≤ (s.chart.slotsAt s.position).length
  processed_eq : s.processed = s.taken.getLast?
  mem_nullable_iff : ∀ {n id}, (n, id) ∈ s.nullable ↔
    id ∈ s.taken ∧ s.chart.FinishedSlot r.grammar n s.position s.position id

variable {r : Recognition T N H Tok} {s : State N}

/-- Whether a slot has been taken up shows in its position and in the slot taken up last, because ids
    ascend along a column. -/
theorem isProcessed_eq_ok {chart : Chart} (hwf : chart.WellFormed) (position cursor : Nat)
    {stop : Nat} {slot : ItemId} (hslot : slot ∈ chart.slotsAt stop) :
    ∃ taken, isProcessed chart position ((chart.slotsAt position).take cursor).getLast? slot =
        .ok taken ∧ (taken = true ↔ slot ∈ (chart.slotsAt position).take cursor) := by
  obtain ⟨item, hitem, rfl, _⟩ := hwf.slot_item hslot
  refine ⟨_, bind_eq_ok_iff.2 ⟨item, Chart.item_eq_ok_iff.2 hitem, rfl⟩, ?_⟩
  have hascend := (hwf.slots_ascend position).sublist (List.take_sublist cursor _)
  simp only [Bool.and_eq_true, decide_eq_true_eq, Option.any_eq_true]
  constructor
  · rintro ⟨rfl, last, hlast, hle⟩
    exact hwf.mem_take_of_le (List.mem_of_getLast? hlast) hslot hle
  · intro hmem
    refine ⟨hwf.stop_of_mem_slotsAt (List.mem_of_mem_take hmem) hitem, ?_⟩
    obtain ⟨front, last, heq⟩ := List.eq_nil_or_concat _ |>.resolve_left (List.ne_nil_of_mem hmem)
    rw [List.concat_eq_append] at heq
    rw [heq] at hmem hascend ⊢
    refine ⟨last, by simp, ?_⟩
    rcases List.mem_append.1 hmem with hfront | hlast
    · exact Nat.le_of_lt ((List.pairwise_append.1 hascend).2.2 slot hfront last (by simp))
    · exact Nat.le_of_eq (List.mem_singleton.1 hlast)

/-- A step from one state to an outcome. -/
inductive Transition (r : Recognition T N H Tok) (s : State N) : Outcome N → Prop where
  /-- An item enters the chart, and is continued if it is an alternative of a slot already taken
      up. -/
  | insert {item : Item} {agenda items : List Item} {insertion : Insertion} {chart : Chart}
      (hagenda : s.agenda = item :: agenda)
      (hinserts : s.chart.Inserts item r.policy insertion chart)
      (hitems : ∀ other, other ∈ items ↔
        (∃ slot alternative, insertion = .merged slot alternative ∧ slot ∈ s.taken) ∧
          r.Continues s.position s.nullable item other) :
      Transition r s (.running { s with chart, agenda := items ++ agenda })
  /-- The next slot is taken up. -/
  | take {slot : ItemId} {first : Item} {items : List Item} {nullable : List (N × ItemId)}
      (hagenda : s.agenda = [])
      (hslot : (s.chart.slotsAt s.position)[s.cursor]? = some slot)
      (hfirst : s.chart.arena[slot]? = some first)
      (hitems : ∀ other, other ∈ items ↔
        r.Arises s.chart s.position s.nullable slot first other)
      (hnullable : ∀ n id, (n, id) ∈ nullable ↔ (n, id) ∈ s.nullable ∨
        id = slot ∧ first.origin = s.position ∧ first.Finishes r.grammar n) :
      Transition r s (.running
        ⟨s.chart, s.position, s.cursor + 1, some slot, nullable, items⟩)
  /-- All slots of the column have been taken up, and the next column begins. -/
  | advance (hagenda : s.agenda = [])
      (hcursor : (s.chart.slotsAt s.position).length ≤ s.cursor)
      (hposition : s.position < r.tokens.size) :
      Transition r s (.running ⟨s.chart, s.position + 1, 0, none, [], []⟩)
  /-- All slots of the last column have been taken up. -/
  | close (hagenda : s.agenda = [])
      (hcursor : (s.chart.slotsAt s.position).length ≤ s.cursor)
      (hposition : r.tokens.size ≤ s.position) : Transition r s (.closed s.chart)

/-- What an insertion adds to the agenda: the continuations of an alternative of a slot already taken
    up. -/
def lateItems (r : Recognition T N H Tok) (s : State N) (item : Item) : Insertion → List Item
  | .merged slot _ => if slot ∈ s.taken then r.continuations s.position s.nullable item else []
  | _ => []

theorem mem_lateItems_iff {item other : Item} {insertion : Insertion} {rule : Rule T N H}
    (hrule : r.grammar.rules[item.rule]? = some rule) :
    other ∈ r.lateItems s item insertion ↔
      (∃ slot alternative, insertion = .merged slot alternative ∧ slot ∈ s.taken) ∧
        r.Continues s.position s.nullable item other := by
  cases insertion with
  | merged slot alternative =>
    simp only [lateItems, Insertion.merged.injEq]
    split_ifs with htaken
    · rw [r.mem_continuations_iff hrule]
      exact (and_iff_right ⟨slot, alternative, ⟨rfl, rfl⟩, htaken⟩).symm
    · constructor
      · intro hmem
        cases hmem
      · rintro ⟨⟨_, _, ⟨rfl, rfl⟩, hmem⟩, _⟩
        exact absurd hmem htaken
  | added => simp [lateItems]
  | duplicate => simp [lateItems]
  | dropped => simp [lateItems]

/-- Where first derivations are kept, nothing is late. -/
theorem lateItems_of_inserts {item : Item} {insertion : Insertion} {chart : Chart}
    (hinserts : s.chart.Inserts item r.policy insertion chart) (hpolicy : r.policy = .keepFirst) :
    r.lateItems s item insertion = [] := by
  cases hinserts with
  | added => rfl
  | duplicate => rfl
  | merged _ _ hmerge => cases hpolicy.symm.trans hmerge
  | dropped => rfl

theorem late_eq_ok (hs : r.Sound s) (ht : r.Tracked s) {item : Item} (hitem : item ∈ s.agenda)
    {insertion : Insertion} {chart : Chart}
    (hinserts : s.chart.Inserts item r.policy insertion chart) :
    r.late chart s.position s.processed s.nullable item insertion =
      .ok (r.lateItems s item insertion) := by
  cases hinserts with
  | added => rfl
  | duplicate => rfl
  | dropped => rfl
  | @merged slot hslot hnew =>
    obtain ⟨rule, hjustified⟩ := hs.agenda_justified hitem
    have hwf := hs.wellFormed.addAlternative hslot hnew
    have hslotsAt : (s.chart.addAlternative slot item).slotsAt s.position =
        s.chart.slotsAt s.position := Chart.slotsAt_addAlternative ..
    have hmemSlot : slot ∈ (s.chart.addAlternative slot item).slotsAt item.stop := by
      rw [Chart.slotsAt_addAlternative]
      exact (hs.wellFormed.slot_key hslot).1
    obtain ⟨taken, htaken, hiff⟩ := isProcessed_eq_ok hwf s.position s.cursor hmemSlot
    rw [hslotsAt] at htaken hiff
    have hprocessed : isProcessed (s.chart.addAlternative slot item) s.position s.processed slot =
        .ok taken := by
      rw [ht.processed_eq]
      exact htaken
    refine bind_eq_ok_iff.2 ⟨taken, hprocessed, ?_⟩
    have htest : slot ∈ s.taken ↔ taken = true := hiff.symm
    simp only [lateItems, htest]
    split_ifs
    · exact r.followUps_eq_ok hjustified.rule_eq s.position s.nullable
    · rfl

/-- The first item on the agenda enters the chart. -/
theorem step_of_inserts (hs : r.Sound s) (ht : r.Tracked s) {item : Item} {agenda : List Item}
    (hagenda : s.agenda = item :: agenda) {insertion : Insertion} {chart : Chart}
    (hinserts : s.chart.Inserts item r.policy insertion chart) :
    r.step s =
      .ok (.running { s with chart, agenda := r.lateItems s item insertion ++ agenda }) := by
  have hitem : item ∈ s.agenda := hagenda ▸ List.mem_cons_self
  have hadd := hs.wellFormed.add_eq_ok hinserts (hs.agenda_stop_lt hitem)
  have hlate := late_eq_ok hs ht hitem hinserts
  obtain ⟨_, _, _, _, _, _⟩ := s
  cases hagenda
  simp only [step, hadd, hlate]

theorem step_of_agenda (hs : r.Sound s) (ht : r.Tracked s) {item : Item} {agenda : List Item}
    (hagenda : s.agenda = item :: agenda) :
    ∃ insertion chart items,
      r.step s = .ok (.running { s with chart, agenda := items ++ agenda }) ∧
      s.chart.Inserts item r.policy insertion chart ∧
      ∀ other, other ∈ items ↔
        (∃ slot alternative, insertion = .merged slot alternative ∧ slot ∈ s.taken) ∧
          r.Continues s.position s.nullable item other := by
  have hitem : item ∈ s.agenda := hagenda ▸ List.mem_cons_self
  obtain ⟨rule, hjustified⟩ := hs.agenda_justified hitem
  obtain ⟨insertion, chart, _, hinserts⟩ :=
    hs.wellFormed.add_inserts (hs.agenda_stop_lt hitem) r.policy
  exact ⟨insertion, chart, _, step_of_inserts hs ht hagenda hinserts, hinserts,
    fun other => mem_lateItems_iff hjustified.rule_eq⟩

/-- With nothing on the agenda the next slot is taken up. -/
theorem step_of_slot (hs : r.Sound s) (hagenda : s.agenda = []) {slot : ItemId}
    (hslot : (s.chart.slotsAt s.position)[s.cursor]? = some slot) {items : List Item}
    {nullable : List (N × ItemId)}
    (hyield : r.yield s.chart s.position s.nullable slot = .ok (items, nullable)) :
    r.step s =
      .ok (.running ⟨s.chart, s.position, s.cursor + 1, some slot, nullable, items⟩) := by
  have hlength := List.getElem?_eq_some_iff.1 hslot |>.1
  have hbound : s.cursor < r.slotBound s.position :=
    Nat.lt_of_lt_of_le hlength (length_slotsAt_le hs.wellFormed hs.arena_justified s.position)
  have hcolumn := Array.getElem?_eq_getElem (Chart.lt_of_mem_slotsAt (List.mem_of_getElem? hslot))
  rw [Chart.slotsAt_of_column hcolumn, Array.getElem?_toList] at hslot
  obtain ⟨_, _, _, _, _, _⟩ := s
  cases hagenda
  simp only [step, Chart.column_eq_ok_iff.2 hcolumn, hslot, hbound, ↓reduceIte, hyield]

/-- With nothing on the agenda and no slot left the next column begins. -/
theorem step_of_end (hs : r.Sound s) (hagenda : s.agenda = [])
    (hcursor : (s.chart.slotsAt s.position).length ≤ s.cursor) :
    r.step s = .ok (if s.position < r.tokens.size
      then .running ⟨s.chart, s.position + 1, 0, none, [], []⟩ else .closed s.chart) := by
  have hlt : s.position < s.chart.columns.size := by
    rw [hs.size_columns]
    exact Nat.lt_succ_of_le hs.position_le
  have hcolumn := Array.getElem?_eq_getElem hlt
  have hnone := List.getElem?_eq_none_iff.2 hcursor
  rw [Chart.slotsAt_of_column hcolumn, Array.getElem?_toList] at hnone
  obtain ⟨_, _, _, _, _, _⟩ := s
  cases hagenda
  simp only [step, Chart.column_eq_ok_iff.2 hcolumn, hnone]
  split_ifs <;> rfl

/-- A state leads to one state at most. -/
theorem Leads.next_eq {next found : State N} (hleads : r.Leads s next)
    (hstep : r.step s = .ok (.running found)) : next = found := by
  unfold Leads at hleads
  rw [hstep] at hleads
  cases hleads
  rfl

/-- From the end of a column a state leads to the beginning of the next one. -/
theorem Leads.next_of_end {next : State N} (hleads : r.Leads s next) (hs : r.Sound s)
    (hagenda : s.agenda = []) (hcursor : (s.chart.slotsAt s.position).length ≤ s.cursor) :
    s.position < r.tokens.size ∧ next = ⟨s.chart, s.position + 1, 0, none, [], []⟩ := by
  have hstep := step_of_end hs hagenda hcursor
  split_ifs at hstep with hposition
  · exact ⟨hposition, hleads.next_eq hstep⟩
  · cases Eq.trans (Eq.symm hleads) hstep

/-- A step never fails, and it is a transition. -/
theorem step_eq_ok (hs : r.Sound s) (ht : r.Tracked s) :
    ∃ outcome, r.step s = .ok outcome ∧ r.Transition s outcome := by
  rcases hagenda : s.agenda with _ | ⟨item, agenda⟩
  · cases hslot : (s.chart.slotsAt s.position)[s.cursor]? with
    | some slot =>
      have hmem := List.mem_of_getElem? hslot
      obtain ⟨first, hfirst, _⟩ := hs.wellFormed.slot_item hmem
      obtain ⟨items, nullable, hyield, hitems, hnullable⟩ := r.yield_eq_ok hs.wellFormed hmem hfirst
        hs.ruled (hs.origin_lt (Array.mem_of_getElem? hfirst)) s.nullable
      exact ⟨_, step_of_slot hs hagenda hslot hyield, .take hagenda hslot hfirst hitems hnullable⟩
    | none =>
      have hcursor := List.getElem?_eq_none_iff.1 hslot
      refine ⟨_, step_of_end hs hagenda hcursor, ?_⟩
      split_ifs with hposition
      · exact .advance hagenda hcursor hposition
      · exact .close hagenda hcursor (Nat.le_of_not_lt hposition)
  · obtain ⟨insertion, chart, items, hstep, hinserts, hitems⟩ := step_of_agenda hs ht hagenda
    exact ⟨_, hstep, .insert hagenda hinserts hitems⟩

end Earley.Recognition
