import Mathlib.Tactic.Common
import Earley.Chart.Basic

/-!
# What a chart says about a position

Slots, alternatives and the slot of a key are read off the column at a position. A position beyond
the last column has none of them. The two ways in which a chart grows change these readings at the
position of the new item only.
-/

namespace Earley.Chart

/-- The slots at a position, in the order in which they were opened. -/
def slotsAt (chart : Chart) (position : Nat) : List ItemId :=
  match chart.columns[position]? with
  | some column => column.slots.toList
  | none => []

/-- The alternatives of a slot at a position, in the order in which they came. -/
def alternativesAt (chart : Chart) (position : Nat) (slot : ItemId) : List ItemId :=
  match chart.columns[position]? with
  | some column => column.alternativesOf slot
  | none => []

/-- The slot of a key at a position. -/
def slotOf? (chart : Chart) (position : Nat) (key : ItemKey) : Option ItemId :=
  match chart.columns[position]? with
  | some column => column.find? key
  | none => none

variable {chart : Chart} {position : Nat} {column : Column}

theorem slotsAt_of_column (h : chart.columns[position]? = some column) :
    chart.slotsAt position = column.slots.toList := by
  simp only [slotsAt, h]

theorem alternativesAt_of_column (h : chart.columns[position]? = some column) (slot : ItemId) :
    chart.alternativesAt position slot = column.alternativesOf slot := by
  simp only [alternativesAt, h]

theorem slotOf?_of_column (h : chart.columns[position]? = some column) (key : ItemKey) :
    chart.slotOf? position key = column.find? key := by
  simp only [slotOf?, h]

/-- Only positions of the chart have slots. -/
theorem lt_of_mem_slotsAt {id : ItemId} (h : id ∈ chart.slotsAt position) :
    position < chart.columns.size := by
  by_contra hnot
  have hnone : chart.columns[position]? = none := Array.getElem?_eq_none (by omega)
  simp only [slotsAt, hnone, List.not_mem_nil] at h

/-- Only positions of the chart have slots for keys. -/
theorem lt_of_slotOf? {key : ItemKey} {id : ItemId} (h : chart.slotOf? position key = some id) :
    position < chart.columns.size := by
  by_contra hnot
  have hnone : chart.columns[position]? = none := Array.getElem?_eq_none (by omega)
  simp only [slotOf?, hnone, reduceCtorEq] at h

section Empty

variable (length : Nat)

theorem columns_empty (position : Nat) :
    (empty length).columns[position]? =
      if position < length + 1 then some Column.empty else none := by
  simp only [empty, Array.getElem?_replicate]

@[simp] theorem slotsAt_empty (position : Nat) : (empty length).slotsAt position = [] := by
  unfold slotsAt
  rw [columns_empty]
  split_ifs <;> rfl

@[simp] theorem alternativesAt_empty (position : Nat) (slot : ItemId) :
    (empty length).alternativesAt position slot = [] := by
  unfold alternativesAt
  rw [columns_empty]
  split_ifs
  · exact Std.TreeMap.getD_emptyc
  · rfl

@[simp] theorem slotOf?_empty (position : Nat) (key : ItemKey) :
    (empty length).slotOf? position key = none := by
  unfold slotOf?
  rw [columns_empty]
  split_ifs
  · exact Std.TreeMap.getElem?_emptyc
  · rfl

@[simp] theorem size_columns_empty : (empty length).columns.size = length + 1 :=
  Array.size_replicate

end Empty

section OpenSlot

variable (chart : Chart) (item : Item)

@[simp] theorem arena_openSlot : (chart.openSlot item).arena = chart.arena.push item := rfl

@[simp] theorem size_columns_openSlot :
    (chart.openSlot item).columns.size = chart.columns.size :=
  Array.size_modify

/-- The new slot stands behind the others at its position. -/
theorem slotsAt_openSlot (hstop : item.stop < chart.columns.size) (position : Nat) :
    (chart.openSlot item).slotsAt position =
      if item.stop = position then chart.slotsAt position ++ [chart.arena.size]
      else chart.slotsAt position := by
  unfold slotsAt openSlot
  rw [Array.getElem?_modify]
  split_ifs with h
  · subst h
    rw [Array.getElem?_eq_getElem hstop]
    simp [Column.openSlot]
  · rfl

/-- Opening a slot gives no alternatives to any slot. -/
@[simp] theorem alternativesAt_openSlot (position : Nat) (slot : ItemId) :
    (chart.openSlot item).alternativesAt position slot = chart.alternativesAt position slot := by
  unfold alternativesAt openSlot
  rw [Array.getElem?_modify]
  split_ifs
  · cases chart.columns[position]? <;> rfl
  · rfl

/-- The new slot belongs to its key. -/
theorem slotOf?_openSlot (hstop : item.stop < chart.columns.size) (position : Nat)
    (key : ItemKey) :
    (chart.openSlot item).slotOf? position key =
      if item.stop = position ∧ item.key = key then some chart.arena.size
      else chart.slotOf? position key := by
  unfold slotOf? openSlot
  rw [Array.getElem?_modify]
  by_cases h : item.stop = position
  · subst h
    rw [Array.getElem?_eq_getElem hstop]
    simp only [Option.map_some, Column.openSlot, Column.find?, ↓reduceIte, true_and,
      Std.TreeMap.getElem?_insert, Std.LawfulEqOrd.compare_eq_iff_eq]
  · simp only [h, ↓reduceIte, false_and]

end OpenSlot

section AddAlternative

variable (chart : Chart) (slot : ItemId) (item : Item)

@[simp] theorem arena_addAlternative :
    (chart.addAlternative slot item).arena = chart.arena.push item := rfl

@[simp] theorem size_columns_addAlternative :
    (chart.addAlternative slot item).columns.size = chart.columns.size :=
  Array.size_modify

/-- An alternative leaves the slots as they are. -/
@[simp] theorem slotsAt_addAlternative (position : Nat) :
    (chart.addAlternative slot item).slotsAt position = chart.slotsAt position := by
  unfold slotsAt addAlternative
  rw [Array.getElem?_modify]
  split_ifs
  · cases chart.columns[position]? <;> rfl
  · rfl

/-- The new alternative stands behind the others of its slot. -/
theorem alternativesAt_addAlternative (hstop : item.stop < chart.columns.size)
    (position : Nat) (other : ItemId) :
    (chart.addAlternative slot item).alternativesAt position other =
      if item.stop = position ∧ slot = other
      then chart.alternativesAt position other ++ [chart.arena.size]
      else chart.alternativesAt position other := by
  unfold alternativesAt addAlternative
  rw [Array.getElem?_modify]
  by_cases h : item.stop = position
  · subst h
    rw [Array.getElem?_eq_getElem hstop]
    by_cases hslot : slot = other
    · subst hslot
      simp [Column.addAlternative, Column.alternativesOf]
    · simp [Column.addAlternative, Column.alternativesOf, Std.TreeMap.getD_insert, hslot]
  · simp only [h, ↓reduceIte, false_and]

/-- An alternative leaves the slots of keys as they are. -/
@[simp] theorem slotOf?_addAlternative (position : Nat) (key : ItemKey) :
    (chart.addAlternative slot item).slotOf? position key = chart.slotOf? position key := by
  unfold slotOf? addAlternative
  rw [Array.getElem?_modify]
  split_ifs
  · cases chart.columns[position]? <;> rfl
  · rfl

end AddAlternative

end Earley.Chart
