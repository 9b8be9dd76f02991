import Earley.Regex.CharSet

/-!
# Regular expressions

The tree that a pattern denotes. Flags such as the one that makes letter case irrelevant are gone:
they have been worked into sets, anchors and the greed of loops.
-/

namespace Earley.Regex

/-- A condition on a place between two characters of a text. -/
inductive Anchor where
  | textStart
  | textEnd
  /-- The start of the text, or right after a line feed. -/
  | lineStart
  /-- The end of the text, or right before a line feed. -/
  | lineEnd
  /-- The start of a line, where a carriage return, a line feed, or both end a line. -/
  | anyLineStart
  /-- The end of a line, where a carriage return, a line feed, or both end a line. -/
  | anyLineEnd
  /-- Between a word character and another one or the end of the text. -/
  | wordBoundary
  | noWordBoundary
  | wordStart
  | wordEnd
  /-- Not after a word character. -/
  | wordStartHalf
  /-- Not before a word character. -/
  | wordEndHalf
deriving DecidableEq, Repr

/-- The character before a place. -/
def before? (text : Array Char) (i : Nat) : Option Char :=
  if i = 0 then none else text[i - 1]?

/-- The character after a place. -/
def after? (text : Array Char) (i : Nat) : Option Char :=
  text[i]?

/-- Whether the condition holds at a place of a text. -/
def Anchor.holds (anchor : Anchor) (text : Array Char) (i : Nat) : Bool :=
  let previous := before? text i
  let next := after? text i
  let afterWord := previous.any isWord
  let beforeWord := next.any isWord
  match anchor with
  | textStart => previous = none
  | textEnd => next = none
  | lineStart => previous = none || previous = some '\n'
  | lineEnd => next = none || next = some '\n'
  | anyLineStart =>
    previous = none || previous = some '\n' || (previous = some '\r' && next ≠ some '\n')
  | anyLineEnd =>
    next = none || next = some '\r' || (next = some '\n' && previous ≠ some '\r')
  | wordBoundary => afterWord != beforeWord
  | noWordBoundary => afterWord == beforeWord
  | wordStart => !afterWord && beforeWord
  | wordEnd => afterWord && !beforeWord
  | wordStartHalf => !afterWord
  | wordEndHalf => !beforeWord

/-- A regular expression. -/
inductive Expr where
  /-- Matches nothing but the empty text. -/
  | empty
  /-- Matches this text. -/
  | literal (text : List Char)
  /-- Matches one character of the set. -/
  | set (chars : CharSet)
  /-- Matches the empty text where the condition holds. -/
  | anchor (condition : Anchor)
  /-- Matches `a` and right after it `b`. -/
  | seq (a b : Expr)
  /-- Matches `a` or, by second preference, `b`. -/
  | choice (a b : Expr)
  /-- Matches `body`. A group with an index remembers what it matched, and is told from other groups
      by the index. -/
  | group (index? : Option Nat) (body : Expr)
  /-- Matches `body` at least `min` times, and at most `max` times if there is such a bound: as
      often as possible by preference if `greedy`, and as seldom as possible if not. -/
  | loop (body : Expr) (min : Nat) (max : Option Nat) (greedy : Bool)
deriving DecidableEq, Repr

namespace Expr

/-- The sequence of a list of expressions. -/
def seqAll : List Expr → Expr
  | [] => empty
  | [e] => e
  | e :: es => seq e (seqAll es)

/-- The choice between the expressions of a list, the earlier the better. -/
def choiceAll : List Expr → Expr
  | [] => empty
  | [e] => e
  | e :: es => choice e (choiceAll es)

/-- The expression of a set. A set of one character is a text. -/
def ofSet (chars : CharSet) : Expr :=
  match chars.member? with
  | some c => literal [c]
  | none => set chars

/-- Whether all matches are empty. A set admits no empty match, even if it has no members. -/
def consumesNothing : Expr → Bool
  | empty => true
  | literal text => text.isEmpty
  | set _ => false
  | anchor _ => true
  | seq a b => a.consumesNothing && b.consumesNothing
  | choice a b => a.consumesNothing && b.consumesNothing
  | group _ body => body.consumesNothing
  | loop body _ max _ => max.isSome && body.consumesNothing

/-- The least number of characters that a match has. There is none as soon as some part of the
    expression matches nothing at all. -/
def minLength? : Expr → Option Nat
  | empty => some 0
  | literal text => some text.length
  | set chars => if chars.ranges.isEmpty then none else some 1
  | anchor _ => some 0
  | seq a b => do return (← a.minLength?) + (← b.minLength?)
  | choice a b => do return Nat.min (← a.minLength?) (← b.minLength?)
  | group _ body => body.minLength?
  | loop body min _ _ => do return min * (← body.minLength?)

/-- Whether every match has at least one character. -/
def alwaysConsumes (e : Expr) : Bool :=
  e.minLength?.any (0 < ·)

end Expr

end Earley.Regex
