import Earley.Proofs.Recognition.Transition

/-!
# Soundness and bookkeeping are kept

The initial state is sound and tracked, and every transition leads to such a state again.
-/

namespace Earley.Recognition

variable {T N H Tok : Type} [DecidableEq N] [Terminal T Tok] {r : Recognition T N H Tok}
  {s s' : State N}

/-- A continuation of a justified item of the current column is justified, and enters this column or
    the next. -/
theorem Justified.of_continues {chart : Chart} {rule : Rule T N H} {item other : Item}
    {position : Nat} {nullable : List (N × ItemId)} (h : r.Justified chart rule item)
    (hmem : item ∈ chart.arena) (hstop : item.stop = position)
    (hnullable : ∀ {n id}, (n, id) ∈ nullable →
      chart.FinishedSlot r.grammar n position position id)
    (hcontinues : r.Continues position nullable item other) :
    r.Justified chart rule other ∧
      (other.stop = position ∨ other.stop = position + 1 ∧ position < r.tokens.size) := by
  subst hstop
  rcases hcontinues with ⟨t, hexpects, hadmits, rfl⟩ | ⟨n, id, hexpects, hid, rfl⟩
  · refine ⟨h.scan hmem hexpects hadmits, .inr ⟨rfl, ?_⟩⟩
    obtain ⟨token, htoken, _⟩ := hadmits
    exact (Array.getElem?_eq_some_iff.1 htoken).1
  · exact ⟨h.advance hmem hexpects (hnullable hid) (Nat.le_refl _), .inl rfl⟩

/-- The start rules are predicted at position zero. -/
theorem sound_initial (r : Recognition T N H Tok) : r.Sound r.initial where
  wellFormed := Chart.wellFormed_empty r.tokens.size
  size_columns := Chart.size_columns_empty r.tokens.size
  position_le := Nat.zero_le _
  arena_justified h := by simp [initial, Chart.empty] at h
  backpointers_lt h := by simp [initial, Chart.empty] at h
  arena_stop_le h := by simp [initial, Chart.empty] at h
  agenda_justified h := by
    obtain ⟨id, hid, rfl⟩ := List.mem_map.1 h
    obtain ⟨rule, hrule, _⟩ := r.grammar.mem_rulesFor_iff.1 hid
    exact ⟨rule, .of_predicted hrule 0⟩
  agenda_stop h := by
    obtain ⟨id, _, rfl⟩ := List.mem_map.1 h
    exact .inl rfl

omit [Terminal T Tok] in
theorem tracked_initial (r : Recognition T N H Tok) : r.Tracked r.initial where
  cursor_le := Nat.zero_le _
  processed_eq := rfl
  mem_nullable_iff := by simp [initial, State.taken]

omit [DecidableEq N] [Terminal T Tok] in
/-- Where the slot of an item's key has been taken up, the item ends at the current position. -/
theorem stop_of_slotOf?_mem_taken (hwf : s.chart.WellFormed) {item : Item} {slot : ItemId}
    (hslot : s.chart.slotOf? item.stop item.key = some slot) (htaken : slot ∈ s.taken) :
    item.stop = s.position := by
  obtain ⟨hmem, first, hfirst, _⟩ := hwf.slot_key hslot
  rw [← hwf.stop_of_mem_slotsAt hmem hfirst]
  exact hwf.stop_of_mem_slotsAt (List.mem_of_mem_take htaken) hfirst

namespace Sound

variable (hs : r.Sound s) (ht : r.Tracked s)
include hs ht

theorem insert {item : Item} {agenda items : List Item} {insertion : Insertion} {chart : Chart}
    (hagenda : s.agenda = item :: agenda)
    (hinserts : s.chart.Inserts item r.policy insertion chart)
    (hitems : ∀ other, other ∈ items ↔
      (∃ slot alternative, insertion = .merged slot alternative ∧ slot ∈ s.taken) ∧
        r.Continues s.position s.nullable item other) :
    r.Sound { s with chart, agenda := items ++ agenda } := by
  have hitem : item ∈ s.agenda := hagenda ▸ List.mem_cons_self
  have hlt := hs.agenda_stop_lt hitem
  have hextends := hinserts.chart_extends hlt
  obtain ⟨rule, hjustified⟩ := hs.agenda_justified hitem
  have hnew : ∀ {other}, other ∈ items → r.Justified chart rule other ∧
      (other.stop = s.position ∨ other.stop = s.position + 1 ∧ s.position < r.tokens.size) := by
    intro other hother
    obtain ⟨⟨slot, alternative, rfl, htaken⟩, hcontinues⟩ := (hitems other).1 hother
    cases hinserts with
    | merged hslot =>
      have hstop := stop_of_slotOf?_mem_taken hs.wellFormed hslot htaken
      exact (hjustified.mono hextends).of_continues Array.mem_push_self hstop
        (fun hid => (ht.mem_nullable_iff.1 hid).2.mono hextends) hcontinues
  exact {
    wellFormed := hinserts.wellFormed hs.wellFormed hlt
    size_columns := hextends.size_columns.trans hs.size_columns
    position_le := hs.position_le
    arena_justified := by
      intro other hother
      rcases hinserts.mem_arena_cases hother with hold | rfl
      · obtain ⟨rule', hrule'⟩ := hs.arena_justified hold
        exact ⟨rule', hrule'.mono hextends⟩
      · exact ⟨rule, hjustified.mono hextends⟩
    backpointers_lt := by
      intro id other hother c hc
      rcases hinserts.arena_cases hother with hold | ⟨rfl, rfl⟩
      · exact hs.backpointers_lt hold c hc
      · exact hjustified.tiles.lt_size hc
    arena_stop_le := by
      intro other hother
      rcases hinserts.mem_arena_cases hother with hold | rfl
      · exact hs.arena_stop_le hold
      · rcases hs.agenda_stop hitem with hstop | ⟨hstop, _⟩ <;> simp only [hstop] <;> omega
    agenda_justified := by
      intro other hother
      rcases List.mem_append.1 hother with hother | hrest
      · exact ⟨rule, (hnew hother).1⟩
      · obtain ⟨rule', hrule'⟩ := hs.agenda_justified (hagenda ▸ List.mem_cons_of_mem _ hrest)
        exact ⟨rule', hrule'.mono hextends⟩
    agenda_stop := by
      intro other hother
      rcases List.mem_append.1 hother with hother | hrest
      · exact (hnew hother).2
      · exact hs.agenda_stop (hagenda ▸ List.mem_cons_of_mem _ hrest) }

theorem take {slot : ItemId} {first : Item} {items : List Item}
    {nullable : List (N × ItemId)}
    (hslot : (s.chart.slotsAt s.position)[s.cursor]? = some slot)
    (hfirst : s.chart.arena[slot]? = some first)
    (hitems : ∀ other, other ∈ items ↔
      r.Arises s.chart s.position s.nullable slot first other) :
    r.Sound ⟨s.chart, s.position, s.cursor + 1, some slot, nullable, items⟩ := by
  have hmem := List.mem_of_getElem? hslot
  have hnew : ∀ {other}, other ∈ items → (∃ rule, r.Justified s.chart rule other) ∧
      (other.stop = s.position ∨ other.stop = s.position + 1 ∧ s.position < r.tokens.size) := by
    intro other hother
    cases (hitems other).1 hother with
    | predict _ hid =>
      obtain ⟨rule, hrule, _⟩ := r.grammar.mem_rulesFor_iff.1 hid
      exact ⟨⟨rule, .of_predicted hrule s.position⟩, .inl rfl⟩
    | proceed hitem hstop _ hcontinues =>
      obtain ⟨rule, hjustified⟩ := hs.arena_justified hitem
      obtain ⟨hother, hend⟩ := hjustified.of_continues hitem hstop
        (fun hid => (ht.mem_nullable_iff.1 hid).2) hcontinues
      exact ⟨⟨rule, hother⟩, hend⟩
    | complete hfinishes hparent hstop hexpects =>
      obtain ⟨rule, hjustified⟩ := hs.arena_justified hparent
      obtain ⟨_, hfirstJustified⟩ := hs.arena_justified (Array.mem_of_getElem? hfirst)
      have hend := hs.wellFormed.stop_of_mem_slotsAt hmem hfirst
      have hle : first.origin ≤ s.position := hend ▸ hfirstJustified.origin_le
      refine ⟨⟨rule, hjustified.advance hparent hexpects ?_ (hstop ▸ hle)⟩, .inl rfl⟩
      exact ⟨hmem, first, hfirst, hstop.symm, hfinishes⟩
  exact {
    hs with
    agenda_justified := fun hother => (hnew hother).1
    agenda_stop := fun hother => (hnew hother).2 }

omit ht in
theorem advance (hposition : s.position < r.tokens.size) :
    r.Sound ⟨s.chart, s.position + 1, 0, none, [], []⟩ where
  wellFormed := hs.wellFormed
  size_columns := hs.size_columns
  position_le := hposition
  arena_justified := hs.arena_justified
  backpointers_lt := hs.backpointers_lt
  arena_stop_le h := Nat.le_succ_of_le (hs.arena_stop_le h)
  agenda_justified h := absurd h List.not_mem_nil
  agenda_stop h := absurd h List.not_mem_nil

/-- Soundness is kept. -/
theorem transition (h : r.Transition s (.running s')) : r.Sound s' := by
  cases h with
  | insert hagenda hinserts hitems => exact hs.insert ht hagenda hinserts hitems
  | take _ hslot hfirst hitems => exact hs.take ht hslot hfirst hitems
  | advance _ _ hposition => exact hs.advance hposition

end Sound

omit [Terminal T Tok] in
/-- Insertions do not change which slots have been taken up. -/
theorem Tracked.taken_insert (ht : r.Tracked s) {item : Item} {insertion : Insertion}
    {chart : Chart} (hinserts : s.chart.Inserts item r.policy insertion chart)
    (hlt : item.stop < s.chart.columns.size) :
    (chart.slotsAt s.position).take s.cursor = s.taken := by
  obtain ⟨opened, hslots, _⟩ := hinserts.slotsAt_eq_append hlt s.position
  rw [hslots, List.take_append_of_le_length ht.cursor_le]
  rfl

namespace Tracked

variable (ht : r.Tracked s) (hs : r.Sound s)
include ht hs

theorem insert {item : Item} {agenda items : List Item} {insertion : Insertion} {chart : Chart}
    (hagenda : s.agenda = item :: agenda)
    (hinserts : s.chart.Inserts item r.policy insertion chart) :
    r.Tracked { s with chart, agenda := items ++ agenda } := by
  have hlt := hs.agenda_stop_lt (hagenda ▸ List.mem_cons_self)
  have hextends := hinserts.chart_extends hlt
  have htaken := ht.taken_insert hinserts hlt
  obtain ⟨opened, hslots, _⟩ := hinserts.slotsAt_eq_append hlt s.position
  constructor
  · simp only [hslots, List.length_append]
    exact Nat.le_add_right_of_le ht.cursor_le
  · exact ht.processed_eq.trans (congrArg List.getLast? htaken.symm)
  · intro n id
    refine ht.mem_nullable_iff.trans ?_
    simp only [State.taken, htaken]
    exact and_congr_right fun hid => ⟨fun h => h.mono hextends, fun h =>
      h.of_extends hs.wellFormed hextends (List.mem_of_mem_take hid)⟩

omit [Terminal T Tok] hs in
/-- The slot that is taken up is an empty derivation where it begins at its own position. -/
theorem take {slot : ItemId} {first : Item} {items : List Item} {nullable : List (N × ItemId)}
    (hslot : (s.chart.slotsAt s.position)[s.cursor]? = some slot)
    (hfirst : s.chart.arena[slot]? = some first)
    (hnullable : ∀ n id, (n, id) ∈ nullable ↔ (n, id) ∈ s.nullable ∨
      id = slot ∧ first.origin = s.position ∧ first.Finishes r.grammar n) :
    r.Tracked ⟨s.chart, s.position, s.cursor + 1, some slot, nullable, items⟩ := by
  have hmem := List.mem_of_getElem? hslot
  constructor
  · exact (List.getElem?_eq_some_iff.1 hslot).1
  · rw [State.taken_take hslot, List.getLast?_append, List.getLast?_singleton, Option.some_or]
  · intro n id
    rw [State.taken_take hslot, List.mem_append, List.mem_singleton]
    rw [hnullable, ht.mem_nullable_iff, or_and_right]
    refine or_congr_right (and_congr_right ?_)
    rintro rfl
    constructor
    · rintro ⟨horigin, hfinishes⟩
      exact ⟨hmem, first, hfirst, horigin, hfinishes⟩
    · rintro ⟨_, other, hother, horigin, hfinishes⟩
      rw [hfirst] at hother
      cases hother
      exact ⟨horigin, hfinishes⟩

/-- The bookkeeping is kept. -/
theorem transition (h : r.Transition s (.running s')) : r.Tracked s' := by
  cases h with
  | insert hagenda hinserts => exact ht.insert hs hagenda hinserts
  | take _ hslot hfirst _ hnullable => exact ht.take hslot hfirst hnullable
  | advance =>
    constructor
    · exact Nat.zero_le _
    · rfl
    · simp [State.taken]

end Tracked

end Earley.Recognition
