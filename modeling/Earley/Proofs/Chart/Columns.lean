import Mathlib.Data.List.Nodup
import Earley.Proofs.Chart.Erasure

/-!
# Columns of different charts

Two charts can have their first columns in common although they go on differently, and their columns can
have slots for the same keys although the slots have other ids.
-/

namespace Earley.Chart

/-- The first columns of the charts are the same: they have the same slots in the same order, the same
    alternatives, and the same items behind them. -/
structure SharesColumns (chart other : Chart) (count : Nat) : Prop where
  slots : ∀ position < count, chart.slotsAt position = other.slotsAt position
  alternatives : ∀ position < count, ∀ slot,
    chart.alternativesAt position slot = other.alternativesAt position slot
  items : ∀ {id : ItemId} {item : Item}, item.stop < count →
    (chart.arena[id]? = some item ↔ other.arena[id]? = some item)

variable {chart chart' other : Chart} {item : Item} {policy : AmbiguityPolicy} {insertion : Insertion}
  {position count : Nat}

namespace SharesColumns

theorem refl (chart : Chart) (count : Nat) : chart.SharesColumns chart count :=
  ⟨fun _ _ => rfl, fun _ _ _ => rfl, fun _ => Iff.rfl⟩

theorem symm (h : chart.SharesColumns other count) : other.SharesColumns chart count where
  slots position hposition := (h.slots position hposition).symm
  alternatives position hposition slot := (h.alternatives position hposition slot).symm
  items hstop := (h.items hstop).symm

theorem trans {third : Chart} (h : chart.SharesColumns other count)
    (h' : other.SharesColumns third count) : chart.SharesColumns third count where
  slots position hposition := (h.slots position hposition).trans (h'.slots position hposition)
  alternatives position hposition slot :=
    (h.alternatives position hposition slot).trans (h'.alternatives position hposition slot)
  items hstop := (h.items hstop).trans (h'.items hstop)

theorem mono {fewer : Nat} (h : chart.SharesColumns other count) (hfewer : fewer ≤ count) :
    chart.SharesColumns other fewer where
  slots position hposition := h.slots position (Nat.lt_of_lt_of_le hposition hfewer)
  alternatives position hposition := h.alternatives position (Nat.lt_of_lt_of_le hposition hfewer)
  items hstop := h.items (Nat.lt_of_lt_of_le hstop hfewer)

end SharesColumns

theorem sharesColumns_zero (chart other : Chart) : chart.SharesColumns other 0 :=
  ⟨fun _ h => absurd h (Nat.not_lt_zero _), fun _ h => absurd h (Nat.not_lt_zero _),
    fun h => absurd h (Nat.not_lt_zero _)⟩

/-- An insertion leaves the columns before the item's as they are. -/
theorem Inserts.sharesColumns (h : chart.Inserts item policy insertion chart')
    (hstop : item.stop < chart.columns.size) (hcount : count ≤ item.stop) :
    chart'.SharesColumns chart count where
  slots position hposition := by
    obtain ⟨opened, hslots, hopened⟩ := h.slotsAt_eq_append hstop position
    have hnone := hopened.resolve_right (by omega)
    rw [hslots, hnone, List.append_nil]
  alternatives position hposition slot := by
    cases h with
    | added => exact alternativesAt_openSlot ..
    | duplicate => rfl
    | merged =>
      rw [alternativesAt_addAlternative _ _ _ hstop, if_neg fun hsame => by omega]
    | dropped => rfl
  items {id found} hfound := by
    constructor
    · intro hid
      rcases h.arena_cases hid with hold | ⟨_, rfl⟩
      · exact hold
      · omega
    · exact (h.chart_extends hstop).arena

/-- The key of an item. -/
def keyOf? (chart : Chart) (id : ItemId) : Option ItemKey :=
  (chart.arena[id]?).map Item.key

theorem keyOf?_of_eq_some {id : ItemId} (hitem : chart.arena[id]? = some item) :
    chart.keyOf? id = some item.key := by
  rw [keyOf?, hitem, Option.map_some]

/-- The keys for which the column at a position has slots, in the order of the slots. -/
def keysAt (chart : Chart) (position : Nat) : List ItemKey :=
  (chart.slotsAt position).filterMap chart.keyOf?

theorem mem_keysAt_iff {key : ItemKey} :
    key ∈ chart.keysAt position ↔
      ∃ slot ∈ chart.slotsAt position, ∃ item, chart.arena[slot]? = some item ∧ item.key = key := by
  simp only [keysAt, keyOf?, List.mem_filterMap, Option.map_eq_some_iff]

namespace WellFormed

variable (hwf : chart.WellFormed)
include hwf

/-- Slots and keys stand side by side. -/
theorem forall₂_keysAt (position : Nat) :
    List.Forall₂ (fun slot key => chart.slotOf? position key = some slot)
      (chart.slotsAt position) (chart.keysAt position) := by
  have hslots : ∀ slot ∈ chart.slotsAt position, ∃ item, chart.arena[slot]? = some item ∧
      chart.slotOf? position item.key = some slot := by
    intro slot hslot
    obtain ⟨item, hitem, _, hkey⟩ := hwf.slot_item hslot
    exact ⟨item, hitem, hkey⟩
  unfold keysAt
  generalize chart.slotsAt position = slots at hslots
  induction slots with
  | nil => exact .nil
  | cons slot slots ih =>
    obtain ⟨item, hitem, hkey⟩ := hslots slot List.mem_cons_self
    rw [List.filterMap_cons_some (keyOf?_of_eq_some hitem)]
    exact .cons hkey (ih fun slot hslot => hslots slot (List.mem_cons_of_mem _ hslot))

theorem length_keysAt (position : Nat) :
    (chart.keysAt position).length = (chart.slotsAt position).length :=
  (hwf.forall₂_keysAt position).length_eq.symm

/-- No key has two slots. -/
theorem nodup_keysAt (position : Nat) : (chart.keysAt position).Nodup := by
  refine List.Nodup.of_map (chart.slotOf? position) ?_
  have hslots : (chart.keysAt position).map (chart.slotOf? position) =
      (chart.slotsAt position).map some := by
    have hsame := (hwf.forall₂_keysAt position).imp fun _ _ => Eq.symm
    rw [← List.forall₂_map_right_iff, ← List.forall₂_map_left_iff, List.forall₂_eq_eq_eq] at hsame
    exact hsame.symm
  rw [hslots]
  exact List.Nodup.map (fun _ _ => Option.some.inj) ((hwf.slots_ascend position).imp Nat.ne_of_lt)

theorem slotOf?_eq_none_iff_not_mem_keysAt {key : ItemKey} :
    chart.slotOf? position key = none ↔ key ∉ chart.keysAt position := by
  rw [Option.eq_none_iff_forall_ne_some, mem_keysAt_iff]
  constructor
  · rintro hnone ⟨slot, hslot, item, hitem, rfl⟩
    exact hnone slot (hwf.slotOf?_of_mem_slotsAt hslot hitem)
  · rintro hnot slot hslot
    obtain ⟨hmem, item, hitem, hkey⟩ := hwf.slot_key hslot
    exact hnot ⟨slot, hmem, item, hitem, hkey⟩

/-- The slot at an index has an item of the key at this index. -/
theorem getElem?_keysAt {index : Nat} {slot : ItemId} {first : Item}
    (hslot : (chart.slotsAt position)[index]? = some slot)
    (hfirst : chart.arena[slot]? = some first) :
    (chart.keysAt position)[index]? = some first.key := by
  obtain ⟨hlt, rfl⟩ := List.getElem?_eq_some_iff.1 hslot
  have hlt' : index < (chart.keysAt position).length := hwf.length_keysAt position ▸ hlt
  have hkey := (hwf.forall₂_keysAt position).get hlt hlt'
  obtain ⟨_, found, hfound, hsame⟩ := hwf.slot_key hkey
  rw [List.get_eq_getElem, hfirst] at hfound
  cases hfound
  rw [List.getElem?_eq_getElem hlt', hsame, List.get_eq_getElem]

/-- At the index of a key there is a slot of this key. -/
theorem exists_of_getElem?_keysAt {index : Nat} {key : ItemKey}
    (hkey : (chart.keysAt position)[index]? = some key) :
    ∃ slot first, (chart.slotsAt position)[index]? = some slot ∧ chart.arena[slot]? = some first ∧
      first.key = key := by
  have hlt : index < (chart.slotsAt position).length :=
    hwf.length_keysAt position ▸ (List.getElem?_eq_some_iff.1 hkey).1
  have hslot := List.getElem?_eq_getElem hlt
  obtain ⟨first, hfirst, _⟩ := hwf.slot_item (List.getElem_mem hlt)
  rw [hwf.getElem?_keysAt hslot hfirst, Option.some.injEq] at hkey
  exact ⟨_, first, hslot, hfirst, hkey⟩

end WellFormed

/-- Old slots keep their keys in a longer chart. -/
theorem Extends.filterMap_keyOf? (hextends : chart'.Extends chart) (hwf : chart.WellFormed)
    (position : Nat) :
    (chart.slotsAt position).filterMap chart'.keyOf? = chart.keysAt position := by
  refine List.filterMap_congr fun slot hslot => ?_
  obtain ⟨item, hitem, _⟩ := hwf.slot_item hslot
  rw [keyOf?_of_eq_some hitem, keyOf?_of_eq_some (hextends.arena hitem)]

/-- An item whose key is new adds the key to those of its column. -/
theorem Inserts.keysAt_eq (h : chart.Inserts item policy insertion chart') (hwf : chart.WellFormed)
    (hstop : item.stop < chart.columns.size) (position : Nat) :
    chart'.keysAt position = chart.keysAt position ++
      if item.stop = position ∧ item.key ∉ chart.keysAt position then [item.key] else [] := by
  have hold := (h.chart_extends hstop).filterMap_keyOf? hwf position
  have hsame (hheld : item.stop = position → ∃ slot, chart.slotOf? position item.key = some slot)
      (hslots : chart'.slotsAt position = chart.slotsAt position) :
      chart'.keysAt position = chart.keysAt position ++
        if item.stop = position ∧ item.key ∉ chart.keysAt position then [item.key] else [] := by
    rw [if_neg, List.append_nil, ← hold, keysAt, hslots]
    rintro ⟨hend, hfresh⟩
    obtain ⟨slot, hslot⟩ := hheld hend
    rw [← hwf.slotOf?_eq_none_iff_not_mem_keysAt, hslot] at hfresh
    cases hfresh
  cases h with
  | added hfresh =>
    have hkey : (chart.openSlot item).keyOf? chart.arena.size = some item.key :=
      keyOf?_of_eq_some (getElem?_push_eq_some_iff.2 (.inr ⟨rfl, rfl⟩))
    rw [keysAt, slotsAt_openSlot _ _ hstop]
    split_ifs with hend hboth hboth
    · rw [List.filterMap_append, hold, List.filterMap_cons_some hkey, List.filterMap_nil]
    · exact absurd ⟨hend, hwf.slotOf?_eq_none_iff_not_mem_keysAt.1 (hend ▸ hfresh)⟩ hboth
    · exact absurd hboth.1 hend
    · rw [hold, List.append_nil]
  | duplicate hslot => exact hsame (fun hend => ⟨_, hend ▸ hslot⟩) rfl
  | merged hslot => exact hsame (fun hend => ⟨_, hend ▸ hslot⟩) (slotsAt_addAlternative ..)
  | dropped hslot => exact hsame (fun hend => ⟨_, hend ▸ hslot⟩) rfl

/-- Columns that are shared have the same keys. -/
theorem SharesColumns.keysAt_eq (h : chart.SharesColumns other count) (hwf : chart.WellFormed)
    (hposition : position < count) : chart.keysAt position = other.keysAt position := by
  unfold keysAt
  rw [← h.slots position hposition]
  refine List.filterMap_congr fun slot hslot => ?_
  obtain ⟨item, hitem, rfl, _⟩ := hwf.slot_item hslot
  rw [keyOf?_of_eq_some hitem, keyOf?_of_eq_some ((h.items hposition).1 hitem)]

/-- Without its alternatives a chart has the same keys. -/
theorem ErasesTo.keysAt_eq {erased : Chart} (h : chart.ErasesTo erased) (position : Nat) :
    erased.keysAt position = chart.keysAt position := by
  have hslots := h.slots position
  unfold keysAt
  generalize chart.slotsAt position = slots at hslots
  generalize erased.slotsAt position = slots' at hslots
  induction hslots with
  | nil => rfl
  | cons hnames _ ih =>
    obtain ⟨item, item', hitem, hitem', halike⟩ := hnames
    rw [List.filterMap_cons_some (keyOf?_of_eq_some hitem),
      List.filterMap_cons_some (keyOf?_of_eq_some hitem'), halike.key_eq, ih]

end Earley.Chart
