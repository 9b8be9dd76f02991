import Earley.Proofs.Chart.WellFormed
import Earley.Proofs.Sequence

/-!
# Insertions into well-formed charts

Adding an item to a well-formed chart succeeds whenever the chart has the item's position. What
happens to the item is told by what the arena holds already: nothing of its key, the item itself, or
other derivations of its key.
-/

namespace Earley

/-- An item is told by its key, its position and its backpointers. -/
theorem Item.eq_of_key_eq {item other : Item} (hkey : other.key = item.key)
    (hstop : other.stop = item.stop) (hpointers : other.backpointers = item.backpointers) :
    other = item := by
  simp only [key, ItemKey.mk.injEq] at hkey
  cases other
  cases item
  simp_all

namespace Chart

variable {chart chart' : Chart} {item : Item} {policy : AmbiguityPolicy} {insertion : Insertion}

/-- The second chart holds all that the first one holds, under the same ids. -/
structure Extends (chart' chart : Chart) : Prop where
  arena : ∀ {id : ItemId} {item : Item},
    chart.arena[id]? = some item → chart'.arena[id]? = some item
  /-- Further slots come behind those that were there. -/
  slots_prefix : ∀ position, chart.slotsAt position <+: chart'.slotsAt position
  size_columns : chart'.columns.size = chart.columns.size

namespace Extends

theorem refl (chart : Chart) : chart.Extends chart :=
  ⟨fun h => h, fun _ => List.prefix_rfl, rfl⟩

theorem trans {chart'' : Chart} (h' : chart''.Extends chart') (h : chart'.Extends chart) :
    chart''.Extends chart where
  arena hitem := h'.arena (h.arena hitem)
  slots_prefix position := (h.slots_prefix position).trans (h'.slots_prefix position)
  size_columns := h'.size_columns.trans h.size_columns

theorem slotsAt {position : Nat} {id : ItemId} (h : chart'.Extends chart)
    (hid : id ∈ chart.slotsAt position) : id ∈ chart'.slotsAt position :=
  (h.slots_prefix position).mem hid

theorem getElem?_slotsAt {position index : Nat} {id : ItemId} (h : chart'.Extends chart)
    (hid : (chart.slotsAt position)[index]? = some id) :
    (chart'.slotsAt position)[index]? = some id := by
  obtain ⟨hlt, rfl⟩ := List.getElem?_eq_some_iff.1 hid
  exact List.prefix_iff_getElem?.1 (h.slots_prefix position) index hlt

theorem mem_arena {other : Item} (h : chart'.Extends chart) (hother : other ∈ chart.arena) :
    other ∈ chart'.arena := by
  obtain ⟨id, hid⟩ := Array.mem_iff_getElem?.1 hother
  exact Array.mem_of_getElem? (h.arena hid)

theorem size_arena_le (h : chart'.Extends chart) : chart.arena.size ≤ chart'.arena.size := by
  by_contra hnot
  have hlast := h.arena (Array.getElem?_eq_getElem (Nat.lt_of_not_le hnot))
  exact Nat.lt_irrefl _ (lt_size_of_getElem? hlast)

end Extends

/-- An old slot has the same key in a longer chart. -/
theorem Extends.slotOf?_eq {position : Nat} {key : ItemKey} {slot : ItemId}
    (hextends : chart'.Extends chart) (hwf : chart.WellFormed) (hwf' : chart'.WellFormed)
    (hmem : slot ∈ chart.slotsAt position) (hslot : chart'.slotOf? position key = some slot) :
    chart.slotOf? position key = some slot := by
  obtain ⟨first, hfirst, _, hkey⟩ := hwf.slot_item hmem
  obtain ⟨_, found, hfound, rfl⟩ := hwf'.slot_key hslot
  rw [hextends.arena hfirst] at hfound
  cases hfound
  exact hkey

theorem extends_openSlot (hstop : item.stop < chart.columns.size) :
    (chart.openSlot item).Extends chart where
  arena h := getElem?_push_eq_some_iff.2 (.inl h)
  slots_prefix position := by
    rw [slotsAt_openSlot _ _ hstop]
    split_ifs
    · exact List.prefix_append _ _
    · exact List.prefix_rfl
  size_columns := size_columns_openSlot chart item

theorem extends_addAlternative (slot : ItemId) : (chart.addAlternative slot item).Extends chart where
  arena h := getElem?_push_eq_some_iff.2 (.inl h)
  slots_prefix position := by
    have hslots := slotsAt_addAlternative chart slot item position
    exact hslots ▸ List.prefix_rfl
  size_columns := size_columns_addAlternative chart slot item

/-- The chart has an item of the same key at the same position. -/
def Holds (chart : Chart) (item : Item) : Prop :=
  ∃ other ∈ chart.arena, other.key = item.key ∧ other.stop = item.stop

theorem Holds.mono (h : chart.Holds item) (hextends : chart'.Extends chart) : chart'.Holds item := by
  obtain ⟨other, hother, hsame⟩ := h
  exact ⟨other, hextends.mem_arena hother, hsame⟩

theorem Holds.of_key_eq {other : Item} (h : chart.Holds item) (hkey : item.key = other.key)
    (hstop : item.stop = other.stop) : chart.Holds other := by
  obtain ⟨found, hfound, hfoundKey, hfoundStop⟩ := h
  exact ⟨found, hfound, hfoundKey.trans hkey, hfoundStop.trans hstop⟩

/-- A key has no slot if and only if the chart has no item for it. -/
theorem WellFormed.slotOf?_eq_none_iff_not_holds (hwf : chart.WellFormed) :
    chart.slotOf? item.stop item.key = none ↔ ¬ chart.Holds item := by
  rw [hwf.slotOf?_eq_none_iff]
  constructor
  · rintro hfresh ⟨other, hother, hkey, hstop⟩
    exact hfresh other hother hstop hkey
  · intro hnot other hother hstop hkey
    exact hnot ⟨other, hother, hkey, hstop⟩

/-- What adding an item does, by what the arena holds beforehand. -/
inductive Inserts (chart : Chart) (item : Item) (policy : AmbiguityPolicy) :
    Insertion → Chart → Prop where
  | added (hfresh : chart.slotOf? item.stop item.key = none) :
      Inserts chart item policy (.added chart.arena.size) (chart.openSlot item)
  | duplicate {slot : ItemId} (hslot : chart.slotOf? item.stop item.key = some slot)
      (hmem : item ∈ chart.arena) : Inserts chart item policy (.duplicate slot) chart
  | merged {slot : ItemId} (hslot : chart.slotOf? item.stop item.key = some slot)
      (hnew : item ∉ chart.arena) (hpolicy : policy = .merge) :
      Inserts chart item policy (.merged slot chart.arena.size) (chart.addAlternative slot item)
  | dropped {slot : ItemId} (hslot : chart.slotOf? item.stop item.key = some slot)
      (hnew : item ∉ chart.arena) (hpolicy : policy = .keepFirst) :
      Inserts chart item policy (.dropped slot) chart

section Derivations

variable {position : Nat} {slot : ItemId} {first : Item} (hwf : chart.WellFormed)
include hwf

theorem WellFormed.derivations_eq_ok (hslot : slot ∈ chart.slotsAt position) :
    chart.derivations slot = .ok (slot :: chart.alternativesAt position slot) := by
  obtain ⟨item, hitem, rfl, _⟩ := hwf.slot_item hslot
  have hcolumn := Array.getElem?_eq_getElem (hwf.stop_lt hitem)
  have halternatives : chart.alternatives slot = .ok (chart.alternativesAt item.stop slot) := by
    refine bind_eq_ok_iff.2 ⟨item, item_eq_ok_iff.2 hitem, ?_⟩
    refine bind_eq_ok_iff.2 ⟨_, column_eq_ok_iff.2 hcolumn, pure_eq_ok_iff.2 ?_⟩
    rw [alternativesAt_of_column hcolumn]
  exact bind_eq_ok_iff.2 ⟨_, halternatives, rfl⟩

/-- The items of a slot and of its alternatives are found. -/
theorem WellFormed.derivationItems_eq_ok (hslot : slot ∈ chart.slotsAt position) :
    chart.derivationItems slot =
      .ok ((slot :: chart.alternativesAt position slot).filterMap (chart.arena[·]?)) := by
  obtain ⟨first, hfirst, _⟩ := hwf.slot_item hslot
  refine bind_eq_ok_iff.2 ⟨_, hwf.derivations_eq_ok hslot, ?_⟩
  apply mapM_eq_ok_filterMap
  intro id hid
  obtain ⟨item, hitem, _⟩ := (hwf.mem_derivations_iff hslot hfirst).1 hid
  exact ⟨item, item_eq_ok_iff.2 hitem, hitem⟩

/-- They are the items of the slot's key at its position. -/
theorem WellFormed.mem_derivationItems_iff (hslot : slot ∈ chart.slotsAt position)
    (hfirst : chart.arena[slot]? = some first) :
    item ∈ (slot :: chart.alternativesAt position slot).filterMap (chart.arena[·]?) ↔
      item ∈ chart.arena ∧ item.stop = position ∧ item.key = first.key := by
  rw [List.mem_filterMap]
  constructor
  · rintro ⟨id, hid, hitem⟩
    obtain ⟨found, hfound, hstop, hkey⟩ := (hwf.mem_derivations_iff hslot hfirst).1 hid
    rw [hfound] at hitem
    cases hitem
    exact ⟨Array.mem_of_getElem? hfound, hstop, hkey⟩
  · rintro ⟨hmem, hstop, hkey⟩
    obtain ⟨id, hid⟩ := Array.mem_iff_getElem?.1 hmem
    exact ⟨id, (hwf.mem_derivations_iff hslot hfirst).2 ⟨item, hid, hstop, hkey⟩, hid⟩

end Derivations

/-- Adding an item at a position of the chart succeeds, with one of the four outcomes. -/
theorem WellFormed.add_inserts (hwf : chart.WellFormed) (hstop : item.stop < chart.columns.size)
    (policy : AmbiguityPolicy) :
    ∃ insertion chart', chart.add item policy = .ok (insertion, chart') ∧
      chart.Inserts item policy insertion chart' := by
  have hcolumn := Array.getElem?_eq_getElem hstop
  have hfind := slotOf?_of_column hcolumn item.key
  unfold add
  simp only [hcolumn, ← hfind]
  cases hslot : chart.slotOf? item.stop item.key with
  | none => exact ⟨_, _, rfl, .added hslot⟩
  | some slot =>
    obtain ⟨hmem, first, hfirst, hkey⟩ := hwf.slot_key hslot
    have hitems : item ∈ _ ↔ _ := hwf.mem_derivationItems_iff hmem hfirst
    have hsame : (List.any ((slot :: chart.alternativesAt item.stop slot).filterMap
        (chart.arena[·]?)) fun other => other.backpointers = item.backpointers) = true ↔
        item ∈ chart.arena := by
      rw [List.any_eq_true]
      constructor
      · rintro ⟨other, hother, hpointers⟩
        obtain ⟨harena, hend, hsame⟩ := (hwf.mem_derivationItems_iff hmem hfirst).1 hother
        have hpointers : other.backpointers = item.backpointers := by simpa using hpointers
        exact Item.eq_of_key_eq (hsame.trans hkey) hend hpointers ▸ harena
      · intro harena
        exact ⟨item, hitems.2 ⟨harena, rfl, hkey.symm⟩, by simp⟩
    simp only [hwf.derivationItems_eq_ok hmem]
    split_ifs with hany
    · exact ⟨_, _, rfl, .duplicate hslot (hsame.1 hany)⟩
    · have hnew : item ∉ chart.arena := fun harena => hany (hsame.2 harena)
      cases policy with
      | merge => exact ⟨_, _, rfl, .merged hslot hnew rfl⟩
      | keepFirst => exact ⟨_, _, rfl, .dropped hslot hnew rfl⟩

namespace Inserts

/-- An item is inserted in one way. -/
theorem unique {insertion' : Insertion} {chart'' : Chart}
    (h : chart.Inserts item policy insertion chart')
    (h' : chart.Inserts item policy insertion' chart'') : insertion = insertion' ∧ chart' = chart'' := by
  cases h with
  | added hfresh =>
    cases h' with
    | added => exact ⟨rfl, rfl⟩
    | duplicate hslot | merged hslot | dropped hslot => cases hfresh.symm.trans hslot
  | duplicate hslot hold =>
    cases h' with
    | added hfresh => cases hfresh.symm.trans hslot
    | duplicate hslot' =>
      cases hslot.symm.trans hslot'
      exact ⟨rfl, rfl⟩
    | merged _ hnew | dropped _ hnew => exact absurd hold hnew
  | merged hslot hnew hpolicy =>
    cases h' with
    | added hfresh => cases hfresh.symm.trans hslot
    | duplicate _ hold => exact absurd hold hnew
    | merged hslot' =>
      cases hslot.symm.trans hslot'
      exact ⟨rfl, rfl⟩
    | dropped _ _ hpolicy' => cases hpolicy.symm.trans hpolicy'
  | dropped hslot hnew hpolicy =>
    cases h' with
    | added hfresh => cases hfresh.symm.trans hslot
    | duplicate _ hold => exact absurd hold hnew
    | merged _ _ hpolicy' => cases hpolicy.symm.trans hpolicy'
    | dropped hslot' =>
      cases hslot.symm.trans hslot'
      exact ⟨rfl, rfl⟩

/-- Insertions keep charts well formed. -/
theorem wellFormed (h : chart.Inserts item policy insertion chart') (hwf : chart.WellFormed)
    (hstop : item.stop < chart.columns.size) : chart'.WellFormed := by
  cases h with
  | added hfresh => exact hwf.openSlot hstop hfresh
  | duplicate => exact hwf
  | merged hslot hnew => exact hwf.addAlternative hslot hnew
  | dropped => exact hwf

/-- Insertions lose nothing. -/
theorem chart_extends (h : chart.Inserts item policy insertion chart')
    (hstop : item.stop < chart.columns.size) : chart'.Extends chart := by
  cases h with
  | added => exact extends_openSlot hstop
  | duplicate => exact .refl chart
  | merged => exact extends_addAlternative _
  | dropped => exact .refl chart

theorem eq_openSlot (h : chart.Inserts item policy insertion chart')
    (hfresh : chart.slotOf? item.stop item.key = none) : chart' = chart.openSlot item := by
  cases h with
  | added => rfl
  | duplicate hslot => simp [hfresh] at hslot
  | merged hslot => simp [hfresh] at hslot
  | dropped hslot => simp [hfresh] at hslot

/-- All that an insertion puts into the arena is the item, under the next free id. -/
theorem arena_cases (h : chart.Inserts item policy insertion chart') {id : ItemId} {other : Item}
    (hother : chart'.arena[id]? = some other) :
    chart.arena[id]? = some other ∨ id = chart.arena.size ∧ other = item := by
  cases h with
  | added => exact (getElem?_push_eq_some_iff.1 hother).imp_right fun h => ⟨h.1, h.2.symm⟩
  | duplicate => exact .inl hother
  | merged => exact (getElem?_push_eq_some_iff.1 hother).imp_right fun h => ⟨h.1, h.2.symm⟩
  | dropped => exact .inl hother

theorem mem_arena_cases (h : chart.Inserts item policy insertion chart') {other : Item}
    (hother : other ∈ chart'.arena) : other ∈ chart.arena ∨ other = item := by
  obtain ⟨id, hid⟩ := Array.mem_iff_getElem?.1 hother
  exact (h.arena_cases hid).imp Array.mem_of_getElem? And.right

/-- At other positions than the item's the slots stay as they are; at its position a new slot can
    come last. -/
theorem slotsAt_eq_append (h : chart.Inserts item policy insertion chart')
    (hstop : item.stop < chart.columns.size) (position : Nat) :
    ∃ opened, chart'.slotsAt position = chart.slotsAt position ++ opened ∧
      (opened = [] ∨ item.stop = position) := by
  cases h with
  | added =>
    rw [slotsAt_openSlot _ _ hstop]
    split_ifs with hend
    · exact ⟨[chart.arena.size], rfl, .inr hend⟩
    · exact ⟨[], (List.append_nil _).symm, .inl rfl⟩
  | duplicate => exact ⟨[], (List.append_nil _).symm, .inl rfl⟩
  | merged => exact ⟨[], by simp, .inl rfl⟩
  | dropped => exact ⟨[], (List.append_nil _).symm, .inl rfl⟩

end Inserts

/-- An insertion is what adding the item does. -/
theorem WellFormed.add_eq_ok (hwf : chart.WellFormed)
    (h : chart.Inserts item policy insertion chart') (hstop : item.stop < chart.columns.size) :
    chart.add item policy = .ok (insertion, chart') := by
  obtain ⟨found, chart'', hadd, hinserts⟩ := hwf.add_inserts hstop policy
  obtain ⟨rfl, rfl⟩ := h.unique hinserts
  exact hadd

end Chart

end Earley
