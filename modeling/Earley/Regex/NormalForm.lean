import Earley.Regex.Expr

/-!
# Normal form

A search runs the normal form of an expression. It matches the same texts, but may prefer others of
them: alternatives that all begin with the same parts become one sequence, in which those parts come
before the choice.

In normal form a sequence has no sequence as its first component, and a choice no choice; empty
parts are dropped, neighbouring texts are one text, and a choice between characters is a set. What
matches nothing but the empty text is not repeated. Groups without an index are gone.
-/

namespace Earley.Regex

namespace Expr

/-- The parts of a sequence. -/
def parts : Expr → List Expr
  | empty => []
  | seq a b => a :: b.parts
  | e => [e]

/-- The branches of a choice. -/
def branches : Expr → List Expr
  | choice a b => a :: b.branches
  | e => [e]

/-- Puts a text in front of an expression. -/
def afterText (text : List Char) : Expr → Expr
  | empty => literal text
  | literal more => literal (text ++ more)
  | seq (literal more) rest => seq (literal (text ++ more)) rest
  | rest => seq (literal text) rest

/-- The sequence of two normal forms. -/
def join : Expr → Expr → Expr
  | empty, rest => rest
  | literal text, rest => afterText text rest
  | seq a b, rest => join a (join b rest)
  | e, empty => e
  | e, rest => seq e rest

/-- The character of a text of one character. -/
def character? : Expr → Option Char
  | literal [c] => some c
  | _ => none

/-- The set of a set. -/
def set? : Expr → Option CharSet
  | set chars => some chars
  | _ => none

/-- The set of all characters that branches match, if all of them are single characters or all of
    them are sets. -/
def charsOf? (branches : List Expr) : Option CharSet :=
  match branches.mapM character? with
  | some chars => some (.unionAll (chars.map .single))
  | none => (branches.mapM set?).map .unionAll

/-- The choice between normal forms that have no first part in common. -/
def pick (es : List Expr) : Expr :=
  match es.flatMap branches with
  | [e] => e
  | es =>
    match charsOf? es with
    | some chars => ofSet chars
    | none => choiceAll es

/-- What two lists have in common at their beginning. -/
def commonPrefix : List Expr → List Expr → List Expr
  | a :: as, b :: bs => if a = b then a :: commonPrefix as bs else []
  | _, _ => []

/-- What all of several sequences have in common at their beginning. A branch that is no sequence of
    at least two parts has nothing in common with others. -/
def sharedParts : List (List Expr) → List Expr
  | [] => []
  | first :: others =>
    if (first :: others).all (2 ≤ ·.length) then others.foldl commonPrefix first else []

/-- The choice between normal forms. -/
def alternate (es : List Expr) : Expr :=
  match es.flatMap branches with
  | [e] => e
  | es =>
    let shared := sharedParts (es.map parts)
    shared.foldr join (pick (es.map fun e => seqAll (e.parts.drop shared.length)))

/-- The repetition of a normal form. What matches nothing but the empty text need not be repeated
    more than once. -/
def repeated (body : Expr) (min : Nat) (max : Option Nat) (greedy : Bool) : Expr :=
  let (min, max) :=
    if body.consumesNothing then (Nat.min min 1, some (max.elim 1 (Nat.min · 1))) else (min, max)
  if max = some 0 then empty
  else if min = 1 ∧ max = some 1 then body
  else loop body min max greedy

/-- The normal forms of the branches of a choice. -/
def alternatives : Expr → List Expr
  | empty => [empty]
  | literal text => [if text.isEmpty then empty else literal text]
  | set chars => [ofSet chars]
  | anchor condition => [anchor condition]
  | seq a b => [join (alternate a.alternatives) (alternate b.alternatives)]
  | choice a b => alternate a.alternatives :: b.alternatives
  | group none body => [alternate body.alternatives]
  | group (some index) body => [group (some index) (alternate body.alternatives)]
  | loop body min max greedy => [repeated (alternate body.alternatives) min max greedy]

/-- The normal form of an expression. -/
def normalize (e : Expr) : Expr :=
  alternate e.alternatives

end Expr

end Earley.Regex
