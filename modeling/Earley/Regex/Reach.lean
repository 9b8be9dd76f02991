import Earley.Regex.Expr

/-!
# Where matches can end

Whether there is a match at all does not depend on preferences. It is found by moving a set of
places through the expression: from every place of the set, a match leads to the places at which it
can end. Sets of places are lists, the last place first.
-/

namespace Earley.Regex

/-- The places of two sets. -/
def union : List Nat → List Nat → List Nat
  | [], qs => qs
  | ps, [] => ps
  | p :: ps, q :: qs =>
    if p = q then p :: union ps qs
    else if q < p then p :: union ps (q :: qs)
    else q :: union (p :: ps) qs
termination_by ps qs => ps.length + qs.length

/-- The places of the first set that are not in the second. -/
def without : List Nat → List Nat → List Nat
  | [], _ => []
  | ps, [] => ps
  | p :: ps, q :: qs =>
    if p = q then without ps qs
    else if q < p then p :: without ps (q :: qs)
    else without (p :: ps) qs
termination_by ps qs => ps.length + qs.length

/-- The places reached from `reached` by at most `rounds` applications of `move`, when all but those
    of `frontier` have had their turn. -/
def spread (move : List Nat → List Nat) : Nat → List Nat → List Nat → List Nat
  | 0, _, reached => reached
  | rounds + 1, frontier, reached =>
    match without (move frontier) reached with
    | [] => reached
    | new => spread move rounds new (union reached new)

/-- The places reached from `places` by exactly `rounds` applications of `move`. They stay the same
    once an application has not changed them. -/
def iterate (move : List Nat → List Nat) : Nat → List Nat → List Nat
  | 0, places => places
  | rounds + 1, places =>
    let next := move places
    if next = places then places else iterate move rounds next

/-- The places right after a character of the set that follows one of `places`. -/
def consume (text : Array Char) (chars : CharSet) (places : List Nat) : List Nat :=
  places.filterMap fun i => if text[i]?.any chars.contains then some (i + 1) else none

namespace Expr

/-- The places of a text at which matches end that begin at one of `places`. A loop without an upper
    bound need not be run more often than there are places. -/
def ends (text : Array Char) : Expr → List Nat → List Nat
  | empty, places => places
  | literal chars, places => chars.foldl (fun places c => consume text (.single c) places) places
  | set chars, places => consume text chars places
  | anchor condition, places => places.filter (condition.holds text ·)
  | seq a b, places => b.ends text (a.ends text places)
  | choice a b, places => union (a.ends text places) (b.ends text places)
  | group _ body, places => body.ends text places
  | loop body min max _, places =>
    let least := iterate (body.ends text) min places
    let rounds :=
      match max with
      | some max => max - min
      | none => text.size + 1
    spread (body.ends text) rounds least least

/-- Whether the expression matches some part of a text. -/
def matchesSomewhere (e : Expr) (text : Array Char) : Bool :=
  !(e.ends text (List.range (text.size + 1)).reverse).isEmpty

end Expr

end Earley.Regex
