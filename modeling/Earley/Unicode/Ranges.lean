/-!
# Ranges of code points

A Unicode property is a list of ranges of code points in ascending order, both ends included.
`Ranges.covers` asks whether a code point lies in one of them.
-/

namespace Earley

/-- Ranges of code points, each given by its first and its last member, in ascending order. -/
abbrev Ranges := List (Nat × Nat)

namespace Ranges

/-- Whether one of the ranges holds `n`. The search ends at the first range that begins beyond `n`,
    which is sound because the ranges ascend. -/
def covers : Ranges → Nat → Bool
  | [], _ => false
  | (first, last) :: rest, n => if n < first then false else n ≤ last || covers rest n

end Ranges

end Earley
