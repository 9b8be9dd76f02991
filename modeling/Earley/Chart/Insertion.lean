import Earley.Chart.Item

/-!
# Insertions

What becomes of an item that is added to a chart.
-/

namespace Earley

/-- What to do with an item whose key is taken. -/
inductive AmbiguityPolicy where
  /-- Keep its derivation as an alternative of the slot. -/
  | merge
  /-- Keep the derivation that came first, and no other. -/
  | keepFirst
deriving DecidableEq, Repr

/-- The outcome of adding an item. -/
inductive Insertion where
  /-- The item opened a slot. -/
  | added (slot : ItemId)
  /-- The item became an alternative of a slot. -/
  | merged (slot alternative : ItemId)
  /-- The slot already holds a derivation with the same backpointers. -/
  | duplicate (slot : ItemId)
  /-- The policy kept the earlier derivation of the slot. -/
  | dropped (slot : ItemId)
deriving DecidableEq, Repr

namespace Insertion

/-- The slot of the item's key. -/
def slot : Insertion → ItemId
  | added slot => slot
  | merged slot _ => slot
  | duplicate slot => slot
  | dropped slot => slot

/-- The id of the item if it became an alternative. -/
def alternative? : Insertion → Option ItemId
  | merged _ alternative => some alternative
  | _ => none

/-- Whether the item opened a slot. -/
def isNew : Insertion → Bool
  | added _ => true
  | _ => false

end Insertion

end Earley
