import Earley.Proofs.Recognition.Invariant

/-!
# Lineage

No item comes from nowhere. An item without a predecessor is the prediction of a start rule at the
beginning of the input; every other item was predicted for an earlier one, or is an earlier one with its
dot moved over a symbol.
-/

namespace Earley.Recognition

variable {T N H Tok : Type} [DecidableEq N]

/-- An item comes about from those that entered the chart before `limit`. -/
inductive Stems (r : Recognition T N H Tok) (chart : Chart) (limit : ItemId) : Item → Prop where
  | start {id : RuleId} (hid : id ∈ r.grammar.startRules) : Stems r chart limit (.predicted id 0)
  | predict {parent : ItemId} {item : Item} {n : N} {id : RuleId} (hlt : parent < limit)
      (hitem : chart.arena[parent]? = some item) (hexpects : item.Expects r.grammar (.nonterminal n))
      (hid : id ∈ r.grammar.rulesFor n) : Stems r chart limit (.predicted id item.stop)
  | scan {parent : ItemId} {item : Item} {t : T} (hlt : parent < limit)
      (hitem : chart.arena[parent]? = some item) (hexpects : item.Expects r.grammar (.terminal t)) :
      Stems r chart limit item.scan
  | advance {parent : ItemId} {item : Item} {n : N} {position : Nat} {slot : ItemId}
      (hlt : parent < limit) (hitem : chart.arena[parent]? = some item)
      (hexpects : item.Expects r.grammar (.nonterminal n))
      (hslot : chart.FinishedSlot r.grammar n item.stop position slot) :
      Stems r chart limit (item.advance position slot)

/-- All items of a state stem from earlier ones. -/
structure Rooted (r : Recognition T N H Tok) (s : State N) : Prop where
  arena : ∀ {id : ItemId} {item : Item}, s.chart.arena[id]? = some item → r.Stems s.chart id item
  agenda : ∀ {item : Item}, item ∈ s.agenda → r.Stems s.chart s.chart.arena.size item

variable {r : Recognition T N H Tok} {s s' : State N}

theorem Stems.mono {chart chart' : Chart} {limit limit' : ItemId} {item : Item}
    (h : r.Stems chart limit item) (hextends : chart'.Extends chart) (hle : limit ≤ limit') :
    r.Stems chart' limit' item := by
  cases h with
  | start hid => exact .start hid
  | predict hlt hitem hexpects hid =>
    exact .predict (Nat.lt_of_lt_of_le hlt hle) (hextends.arena hitem) hexpects hid
  | scan hlt hitem hexpects =>
    exact .scan (Nat.lt_of_lt_of_le hlt hle) (hextends.arena hitem) hexpects
  | advance hlt hitem hexpects hslot =>
    exact .advance (Nat.lt_of_lt_of_le hlt hle) (hextends.arena hitem) hexpects
      (hslot.mono hextends)

theorem rooted_initial (r : Recognition T N H Tok) : r.Rooted r.initial where
  arena h := by simp [initial, Chart.empty] at h
  agenda h := by
    obtain ⟨id, hid, rfl⟩ := List.mem_map.1 h
    exact .start hid

variable [Terminal T Tok]

/-- A continuation stems from the item that it continues. -/
theorem Stems.of_continues {chart : Chart} {item other : Item} {position : Nat}
    {nullable : List (N × ItemId)} (hmem : item ∈ chart.arena) (hstop : item.stop = position)
    (hnullable : ∀ {n id}, (n, id) ∈ nullable →
      chart.FinishedSlot r.grammar n position position id)
    (hcontinues : r.Continues position nullable item other) :
    r.Stems chart chart.arena.size other := by
  obtain ⟨id, hid⟩ := Array.mem_iff_getElem?.1 hmem
  have hlt := lt_size_of_getElem? hid
  subst hstop
  rcases hcontinues with ⟨t, hexpects, _, rfl⟩ | ⟨n, slot, hexpects, hslot, rfl⟩
  · exact .scan hlt hid hexpects
  · exact .advance hlt hid hexpects (hnullable hslot)

namespace Rooted

variable (h : r.Rooted s) (hs : r.Sound s) (ht : r.Tracked s)
include h hs ht

theorem insert {item : Item} {agenda items : List Item} {insertion : Insertion} {chart : Chart}
    (hagenda : s.agenda = item :: agenda)
    (hinserts : s.chart.Inserts item r.policy insertion chart)
    (hitems : ∀ other, other ∈ items ↔
      (∃ slot alternative, insertion = .merged slot alternative ∧ slot ∈ s.taken) ∧
        r.Continues s.position s.nullable item other) :
    r.Rooted { s with chart, agenda := items ++ agenda } := by
  have hitem : item ∈ s.agenda := hagenda ▸ List.mem_cons_self
  have hextends := hinserts.chart_extends (hs.agenda_stop_lt hitem)
  have hsize := hextends.size_arena_le
  constructor
  · intro id other hother
    rcases hinserts.arena_cases hother with hold | ⟨rfl, rfl⟩
    · exact (h.arena hold).mono hextends (Nat.le_refl id)
    · exact (h.agenda hitem).mono hextends (Nat.le_refl _)
  · intro other hother
    rcases List.mem_append.1 hother with hnew | hrest
    · obtain ⟨⟨slot, alternative, rfl, htaken⟩, hcontinues⟩ := (hitems other).1 hnew
      cases hinserts with
      | merged hslot =>
        exact .of_continues Array.mem_push_self
          (stop_of_slotOf?_mem_taken hs.wellFormed hslot htaken)
          (fun hid => (ht.mem_nullable_iff.1 hid).2.mono hextends) hcontinues
    · exact (h.agenda (hagenda ▸ List.mem_cons_of_mem _ hrest)).mono hextends hsize

theorem take {slot : ItemId} {first : Item} {items : List Item} {nullable : List (N × ItemId)}
    (hslot : (s.chart.slotsAt s.position)[s.cursor]? = some slot)
    (hfirst : s.chart.arena[slot]? = some first)
    (hitems : ∀ other, other ∈ items ↔
      r.Arises s.chart s.position s.nullable slot first other) :
    r.Rooted ⟨s.chart, s.position, s.cursor + 1, some slot, nullable, items⟩ := by
  have hmem := List.mem_of_getElem? hslot
  refine ⟨h.arena, fun {other} hother => ?_⟩
  cases (hitems other).1 hother with
  | predict hexpects hid =>
    rw [← hs.wellFormed.stop_of_mem_slotsAt hmem hfirst]
    exact .predict (lt_size_of_getElem? hfirst) hfirst hexpects hid
  | proceed hitem hstop _ hcontinues =>
    exact .of_continues hitem hstop (fun hid => (ht.mem_nullable_iff.1 hid).2) hcontinues
  | complete hfinishes hparent hstop hexpects =>
    obtain ⟨parent, hid⟩ := Array.mem_iff_getElem?.1 hparent
    exact .advance (lt_size_of_getElem? hid) hid hexpects
      ⟨hmem, first, hfirst, hstop.symm, hfinishes⟩

/-- Every step adds items that stem from earlier ones. -/
theorem transition (htransition : r.Transition s (.running s')) : r.Rooted s' := by
  cases htransition with
  | insert hagenda hinserts hitems => exact h.insert hs ht hagenda hinserts hitems
  | take _ hslot hfirst hitems => exact h.take hs ht hslot hfirst hitems
  | advance => exact ⟨h.arena, fun hmem => absurd hmem List.not_mem_nil⟩

end Rooted

end Earley.Recognition
