import Earley.Chart.Item

/-!
# Columns

A column holds the items that end at one position of the input. Items of the same key share a slot:
the first of them occupies it, and the others are its alternatives.
-/

namespace Earley

/-- The items that end at one position. -/
structure Column where
  /-- The items that opened a slot, in the order in which they came. -/
  slots : Array ItemId
  /-- The slot of each key. -/
  index : Std.TreeMap ItemKey ItemId
  /-- The alternatives of each slot that has any, in the order in which they came. -/
  alternatives : Std.TreeMap ItemId (List ItemId)

namespace Column

/-- A column without items. -/
def empty : Column :=
  ⟨#[], ∅, ∅⟩

/-- The slot of a key. -/
def find? (column : Column) (key : ItemKey) : Option ItemId :=
  column.index[key]?

/-- The alternatives of a slot. -/
def alternativesOf (column : Column) (slot : ItemId) : List ItemId :=
  column.alternatives.getD slot []

/-- Opens a slot for an item. -/
def openSlot (column : Column) (key : ItemKey) (id : ItemId) : Column :=
  { column with slots := column.slots.push id, index := column.index.insert key id }

/-- Adds an alternative to a slot. -/
def addAlternative (column : Column) (slot id : ItemId) : Column :=
  { column with
    alternatives := column.alternatives.insert slot (column.alternativesOf slot ++ [id]) }

/-- The number of alternatives of all slots. -/
def alternativeCount (column : Column) : Nat :=
  (column.alternatives.toList.map fun entry => entry.2.length).foldl (· + ·) 0

end Column

end Earley
