import Mathlib.Data.List.Nodup
import Earley.Proofs.Chart.View

/-!
# Well-formed charts

A chart keeps every item in its arena and names it once more in a column: as the slot of its key, or
as an alternative of that slot. In a well-formed chart both agree, and no item is there twice. Every
chart that grows out of the empty one by insertions is well formed.
-/

namespace Earley

/-- An item is found in a longer arena where it was, or is the new one at the end. -/
theorem getElem?_push_eq_some_iff {arena : Array Item} {item other : Item} {id : ItemId} :
    (arena.push item)[id]? = some other ↔
      arena[id]? = some other ∨ id = arena.size ∧ item = other := by
  rw [Array.getElem?_push]
  split_ifs with h
  · subst h
    simp
  · simp [h]

theorem lt_size_of_getElem? {arena : Array Item} {item : Item} {id : ItemId}
    (h : arena[id]? = some item) : id < arena.size :=
  (Array.getElem?_eq_some_iff.1 h).1

theorem nodup_push {arena : Array Item} {item : Item} (h : arena.toList.Nodup)
    (hnew : item ∉ arena) : (arena.push item).toList.Nodup := by
  rw [Array.toList_push, List.nodup_append]
  refine ⟨h, List.nodup_singleton item, ?_⟩
  intro other hother last hlast
  obtain rfl := List.mem_singleton.1 hlast
  rintro rfl
  exact hnew (Array.mem_toList_iff.1 hother)

theorem pairwise_lt_concat {ids : List ItemId} {id : ItemId} (h : ids.Pairwise (· < ·))
    (hlt : ∀ other ∈ ids, other < id) : (ids ++ [id]).Pairwise (· < ·) := by
  refine List.pairwise_append.2 ⟨h, List.pairwise_singleton _ _, ?_⟩
  intro other hother last hlast
  obtain rfl := List.mem_singleton.1 hlast
  exact hlt other hother

namespace Chart

/-- The agreement between the arena of a chart and its columns. -/
structure WellFormed (chart : Chart) : Prop where
  /-- A slot names an item that ends at its position, and is the slot of the item's key. -/
  slot_item : ∀ {position id}, id ∈ chart.slotsAt position →
    ∃ item, chart.arena[id]? = some item ∧ item.stop = position ∧
      chart.slotOf? position item.key = some id
  /-- The slot of a key is a slot whose item has that key. -/
  slot_key : ∀ {position key id}, chart.slotOf? position key = some id →
    id ∈ chart.slotsAt position ∧ ∃ item, chart.arena[id]? = some item ∧ item.key = key
  /-- Slots come in the order of their ids. -/
  slots_ascend : ∀ position, (chart.slotsAt position).Pairwise (· < ·)
  /-- An alternative comes after its slot and has the slot's key and position. -/
  alternative_item : ∀ {position slot id}, id ∈ chart.alternativesAt position slot →
    slot < id ∧ ∃ item, chart.arena[id]? = some item ∧ item.stop = position ∧
      chart.slotOf? position item.key = some slot
  /-- Alternatives come in the order of their ids. -/
  alternatives_ascend : ∀ position slot, (chart.alternativesAt position slot).Pairwise (· < ·)
  /-- Every item is the slot of its key or an alternative of that slot. -/
  item_listed : ∀ {id item}, chart.arena[id]? = some item →
    ∃ slot, chart.slotOf? item.stop item.key = some slot ∧
      (id = slot ∨ id ∈ chart.alternativesAt item.stop slot)
  /-- No item is there twice. -/
  arena_nodup : chart.arena.toList.Nodup

/-- A chart without items is well formed. -/
theorem wellFormed_empty (length : Nat) : (empty length).WellFormed where
  slot_item h := by simp at h
  slot_key h := by simp at h
  slots_ascend position := by simp
  alternative_item h := by simp at h
  alternatives_ascend position slot := by simp
  item_listed h := by simp [empty] at h
  arena_nodup := by simp [empty]

namespace WellFormed

variable {chart : Chart} (hwf : chart.WellFormed)
include hwf

/-- Items end at positions of the chart. -/
theorem stop_lt {id : ItemId} {item : Item} (h : chart.arena[id]? = some item) :
    item.stop < chart.columns.size := by
  obtain ⟨slot, hslot, _⟩ := hwf.item_listed h
  exact lt_of_slotOf? hslot

/-- A slot is a slot at one position only. -/
theorem stop_of_mem_slotsAt {position : Nat} {id : ItemId} {item : Item}
    (hid : id ∈ chart.slotsAt position) (hitem : chart.arena[id]? = some item) :
    item.stop = position := by
  obtain ⟨found, hfound, hstop, _⟩ := hwf.slot_item hid
  rw [hfound] at hitem
  cases hitem
  exact hstop

/-- A slot is the slot of its item's key. -/
theorem slotOf?_of_mem_slotsAt {position : Nat} {id : ItemId} {item : Item}
    (hid : id ∈ chart.slotsAt position) (hitem : chart.arena[id]? = some item) :
    chart.slotOf? position item.key = some id := by
  obtain ⟨found, hfound, _, hkey⟩ := hwf.slot_item hid
  rw [hfound] at hitem
  cases hitem
  exact hkey

/-- A slot has one position and one key. -/
theorem slotOf?_injective {position position' : Nat} {key key' : ItemKey} {slot : ItemId}
    (h : chart.slotOf? position key = some slot) (h' : chart.slotOf? position' key' = some slot) :
    position = position' ∧ key = key' := by
  obtain ⟨hmem, item, hitem, rfl⟩ := hwf.slot_key h
  obtain ⟨hmem', found, hfound, rfl⟩ := hwf.slot_key h'
  rw [hitem] at hfound
  cases hfound
  exact ⟨(hwf.stop_of_mem_slotsAt hmem hitem).symm.trans (hwf.stop_of_mem_slotsAt hmem' hitem), rfl⟩

/-- Slots opened before one of the first slots are among the first. -/
theorem mem_take_of_le {position count : Nat} {slot last : ItemId}
    (hlast : last ∈ (chart.slotsAt position).take count) (hslot : slot ∈ chart.slotsAt position)
    (hle : slot ≤ last) : slot ∈ (chart.slotsAt position).take count := by
  have hascend := hwf.slots_ascend position
  rw [← List.take_append_drop count (chart.slotsAt position)] at hascend hslot
  refine (List.mem_append.1 hslot).resolve_right fun hdrop => ?_
  have hlt := (List.pairwise_append.1 hascend).2.2 last hlast slot hdrop
  exact Nat.not_le.2 hlt hle

/-- Ids of the arena are told apart by their items. -/
theorem id_eq_of_item_eq {id other : ItemId} {item : Item} (hid : chart.arena[id]? = some item)
    (hother : chart.arena[other]? = some item) : id = other := by
  rw [← Array.getElem?_toList] at hid hother
  have hlt := (List.getElem?_eq_some_iff.1 hid).1
  exact (List.getElem?_inj hlt hwf.arena_nodup).1 (hid.trans hother.symm)

/-- The slot of an item's key is a slot at the item's position that shares its key. -/
theorem exists_slot {item : Item} (h : item ∈ chart.arena) :
    ∃ slot first, chart.slotOf? item.stop item.key = some slot ∧
      slot ∈ chart.slotsAt item.stop ∧ chart.arena[slot]? = some first ∧
      first.key = item.key ∧ first.stop = item.stop := by
  obtain ⟨id, hid⟩ := Array.mem_iff_getElem?.1 h
  obtain ⟨slot, hslot, _⟩ := hwf.item_listed hid
  obtain ⟨hmem, first, hfirst, hkey⟩ := hwf.slot_key hslot
  exact ⟨slot, first, hslot, hmem, hfirst, hkey, hwf.stop_of_mem_slotsAt hmem hfirst⟩

/-- A key without a slot belongs to no item at that position. -/
theorem slotOf?_eq_none_iff {position : Nat} {key : ItemKey} :
    chart.slotOf? position key = none ↔
      ∀ item ∈ chart.arena, item.stop = position → item.key ≠ key := by
  constructor
  · rintro hnone item hitem rfl rfl
    obtain ⟨slot, _, hslot, _⟩ := hwf.exists_slot hitem
    rw [hnone] at hslot
    cases hslot
  · intro hfresh
    cases hslot : chart.slotOf? position key with
    | none => rfl
    | some slot =>
      obtain ⟨hmem, item, hitem, hkey⟩ := hwf.slot_key hslot
      have hstop := hwf.stop_of_mem_slotsAt hmem hitem
      exact absurd hkey (hfresh item (Array.mem_of_getElem? hitem) hstop)

/-- A slot and its alternatives are the items of the slot's key at its position. -/
theorem mem_derivations_iff {position : Nat} {slot : ItemId} {first : Item}
    (hslot : slot ∈ chart.slotsAt position) (hfirst : chart.arena[slot]? = some first)
    {id : ItemId} :
    id ∈ slot :: chart.alternativesAt position slot ↔
      ∃ item, chart.arena[id]? = some item ∧ item.stop = position ∧ item.key = first.key := by
  have hstop := hwf.stop_of_mem_slotsAt hslot hfirst
  have hkey := hwf.slotOf?_of_mem_slotsAt hslot hfirst
  constructor
  · intro hid
    rcases List.mem_cons.1 hid with rfl | hid
    · exact ⟨first, hfirst, hstop, rfl⟩
    · obtain ⟨_, item, hitem, hend, hof⟩ := hwf.alternative_item hid
      obtain ⟨_, named, hnamed, hsame⟩ := hwf.slot_key hof
      rw [hfirst] at hnamed
      cases hnamed
      exact ⟨item, hitem, hend, hsame.symm⟩
  · rintro ⟨item, hitem, hend, hsame⟩
    obtain ⟨other, hother, hlisted⟩ := hwf.item_listed hitem
    rw [hend, hsame, hkey] at hother
    cases hother
    rw [hend] at hlisted
    exact List.mem_cons.2 hlisted

/-- A slot is no alternative. -/
theorem not_mem_alternativesAt {position other : Nat} {id slot : ItemId}
    (hid : id ∈ chart.slotsAt position) : id ∉ chart.alternativesAt other slot := by
  intro hmem
  obtain ⟨item, hitem, rfl, hkey⟩ := hwf.slot_item hid
  obtain ⟨hlt, found, hfound, rfl, hof⟩ := hwf.alternative_item hmem
  rw [hitem] at hfound
  cases hfound
  rw [hkey] at hof
  cases hof
  exact Nat.lt_irrefl _ hlt

omit hwf in
/-- A new slot leaves the slots of other keys as they are. -/
theorem slotOf?_openSlot_of_eq_some {item : Item} (hstop : item.stop < chart.columns.size)
    (hfresh : chart.slotOf? item.stop item.key = none) {position : Nat} {key : ItemKey} {id : ItemId}
    (h : chart.slotOf? position key = some id) :
    (chart.openSlot item).slotOf? position key = some id := by
  rw [slotOf?_openSlot _ _ hstop, if_neg, h]
  rintro ⟨rfl, rfl⟩
  rw [h] at hfresh
  cases hfresh

/-- A new key may open a slot. -/
theorem openSlot {item : Item} (hstop : item.stop < chart.columns.size)
    (hfresh : chart.slotOf? item.stop item.key = none) : (chart.openSlot item).WellFormed where
  slot_item {position id} h := by
    rw [slotsAt_openSlot _ _ hstop] at h
    have hcase : id ∈ chart.slotsAt position ∨ item.stop = position ∧ id = chart.arena.size := by
      split_ifs at h with heq
      · simpa [heq] using h
      · exact .inl h
    rcases hcase with hold | ⟨heq, rfl⟩
    · obtain ⟨other, hother, hend, hkey⟩ := hwf.slot_item hold
      exact ⟨other, getElem?_push_eq_some_iff.2 (.inl hother), hend,
        slotOf?_openSlot_of_eq_some hstop hfresh hkey⟩
    · refine ⟨item, getElem?_push_eq_some_iff.2 (.inr ⟨rfl, rfl⟩), heq, ?_⟩
      rw [slotOf?_openSlot _ _ hstop, if_pos ⟨heq, rfl⟩]
  slot_key {position key id} h := by
    rw [slotOf?_openSlot _ _ hstop] at h
    rw [slotsAt_openSlot _ _ hstop]
    split_ifs at h with hnew
    · cases h
      obtain ⟨rfl, rfl⟩ := hnew
      refine ⟨?_, item, getElem?_push_eq_some_iff.2 (.inr ⟨rfl, rfl⟩), rfl⟩
      simp
    · obtain ⟨hmem, other, hother, hkey⟩ := hwf.slot_key h
      refine ⟨?_, other, getElem?_push_eq_some_iff.2 (.inl hother), hkey⟩
      split_ifs
      · exact List.mem_append_left _ hmem
      · exact hmem
  slots_ascend position := by
    rw [slotsAt_openSlot _ _ hstop]
    split_ifs
    · apply pairwise_lt_concat (hwf.slots_ascend position)
      intro id hid
      obtain ⟨other, hother, _⟩ := hwf.slot_item hid
      exact lt_size_of_getElem? hother
    · exact hwf.slots_ascend position
  alternative_item {position slot id} h := by
    rw [alternativesAt_openSlot] at h
    obtain ⟨hlt, other, hother, hend, hkey⟩ := hwf.alternative_item h
    exact ⟨hlt, other, getElem?_push_eq_some_iff.2 (.inl hother), hend,
      slotOf?_openSlot_of_eq_some hstop hfresh hkey⟩
  alternatives_ascend position slot := by
    rw [alternativesAt_openSlot]
    exact hwf.alternatives_ascend position slot
  item_listed {id other} h := by
    rcases getElem?_push_eq_some_iff.1 h with hold | ⟨rfl, rfl⟩
    · obtain ⟨slot, hslot, hlisted⟩ := hwf.item_listed hold
      simp only [alternativesAt_openSlot]
      exact ⟨slot, slotOf?_openSlot_of_eq_some hstop hfresh hslot, hlisted⟩
    · refine ⟨chart.arena.size, ?_, .inl rfl⟩
      rw [slotOf?_openSlot _ _ hstop, if_pos ⟨rfl, rfl⟩]
  arena_nodup := by
    apply nodup_push hwf.arena_nodup
    intro hmem
    exact hwf.slotOf?_eq_none_iff.1 hfresh item hmem rfl rfl

/-- An item that is not there yet may join the slot of its key. -/
theorem addAlternative {item : Item} {slot : ItemId}
    (hslot : chart.slotOf? item.stop item.key = some slot) (hnew : item ∉ chart.arena) :
    (chart.addAlternative slot item).WellFormed where
  slot_item {position id} h := by
    rw [slotsAt_addAlternative] at h
    obtain ⟨other, hother, hend, hkey⟩ := hwf.slot_item h
    refine ⟨other, getElem?_push_eq_some_iff.2 (.inl hother), hend, ?_⟩
    rw [slotOf?_addAlternative, hkey]
  slot_key {position key id} h := by
    rw [slotOf?_addAlternative] at h
    obtain ⟨hmem, other, hother, hkey⟩ := hwf.slot_key h
    refine ⟨?_, other, getElem?_push_eq_some_iff.2 (.inl hother), hkey⟩
    rw [slotsAt_addAlternative]
    exact hmem
  slots_ascend position := by
    rw [slotsAt_addAlternative]
    exact hwf.slots_ascend position
  alternative_item {position other id} h := by
    rw [alternativesAt_addAlternative _ _ _ (lt_of_slotOf? hslot)] at h
    have hcase : id ∈ chart.alternativesAt position other ∨
        (item.stop = position ∧ slot = other) ∧ id = chart.arena.size := by
      split_ifs at h with heq
      · rcases List.mem_append.1 h with hold | hlast
        · exact .inl hold
        · exact .inr ⟨heq, List.mem_singleton.1 hlast⟩
      · exact .inl h
    simp only [slotOf?_addAlternative]
    rcases hcase with hold | ⟨⟨rfl, rfl⟩, rfl⟩
    · obtain ⟨hlt, found, hfound, hend, hkey⟩ := hwf.alternative_item hold
      exact ⟨hlt, found, getElem?_push_eq_some_iff.2 (.inl hfound), hend, hkey⟩
    · obtain ⟨_, first, hfirst, _⟩ := hwf.slot_key hslot
      exact ⟨lt_size_of_getElem? hfirst, item,
        getElem?_push_eq_some_iff.2 (.inr ⟨rfl, rfl⟩), rfl, hslot⟩
  alternatives_ascend position other := by
    rw [alternativesAt_addAlternative _ _ _ (lt_of_slotOf? hslot)]
    split_ifs
    · apply pairwise_lt_concat (hwf.alternatives_ascend position other)
      intro id hid
      obtain ⟨_, found, hfound, _⟩ := hwf.alternative_item hid
      exact lt_size_of_getElem? hfound
    · exact hwf.alternatives_ascend position other
  item_listed {id other} h := by
    rw [slotOf?_addAlternative]
    rcases getElem?_push_eq_some_iff.1 h with hold | ⟨rfl, rfl⟩
    · obtain ⟨found, hfound, hlisted⟩ := hwf.item_listed hold
      refine ⟨found, hfound, hlisted.imp_right ?_⟩
      intro hmem
      rw [alternativesAt_addAlternative _ _ _ (lt_of_slotOf? hslot)]
      split_ifs
      · exact List.mem_append_left _ hmem
      · exact hmem
    · refine ⟨slot, hslot, .inr ?_⟩
      rw [alternativesAt_addAlternative _ _ _ (lt_of_slotOf? hslot), if_pos ⟨rfl, rfl⟩]
      exact List.mem_append_right _ List.mem_cons_self
  arena_nodup := nodup_push hwf.arena_nodup hnew

end WellFormed

end Chart

end Earley
