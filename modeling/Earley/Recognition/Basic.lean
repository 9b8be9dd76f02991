import Earley.Chart.Basic

/-!
# The state of a recognition

A recognition fills a chart column by column. Within a column it takes up the slots in the order in
which they were opened. Taking up a slot yields items, which wait on an agenda and enter the chart
one by one; an alternative that reaches a slot already taken up is followed at once, ahead of the
rest of the agenda.
-/

namespace Earley

/-- What is to be recognized, and how ambiguity is treated. -/
structure Recognition (T N H Tok : Type) [DecidableEq N] where
  grammar : Grammar T N H
  tokens : Array Tok
  policy : AmbiguityPolicy

namespace Recognition

/-- A moment of a recognition. -/
structure State (N : Type) where
  chart : Chart
  /-- The column that is being closed. -/
  position : Nat
  /-- The number of its slots taken up so far. -/
  cursor : Nat
  /-- The slot of this column taken up last. -/
  processed : Option ItemId
  /-- The finished items that begin and end in this column and have been taken up, each with the
      head of its rule, in the order in which they were taken up. -/
  nullable : List (N × ItemId)
  /-- The items that are about to enter the chart. -/
  agenda : List Item

variable {T N H Tok : Type} [DecidableEq N]

/-- The recognition begins with the start rules at position zero. -/
def initial (r : Recognition T N H Tok) : State N where
  chart := Chart.empty r.tokens.size
  position := 0
  cursor := 0
  processed := none
  nullable := []
  agenda := r.grammar.startRules.map fun rule => ⟨rule, 0, 0, 0, []⟩

/-- The most slots that a column can have: one for each dotted rule and each origin. -/
def slotBound (r : Recognition T N H Tok) (position : Nat) : Nat :=
  (position + 1) * r.grammar.dottedRules

end Recognition

end Earley
