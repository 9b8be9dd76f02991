import Mathlib.Tactic.Common
import Earley.Lexer.Engine

/-!
# What is promised of engines

A language of patterns says which texts are patterns and what they match. Its laws are those of the
syntax of regular expressions, as far as letters, anchors, branches and groups go; an engine keeps what
is promised if it compiles and searches according to such a language.
-/

namespace Earley

/-- A language of patterns. Places in a text are told by the number of characters before them. -/
structure PatternLanguage where
  /-- The pattern is well formed. -/
  IsPattern : String → Prop
  /-- The pattern is a sequence: it has branches only in groups, and flags that it sets hold in groups
      only. -/
  IsSequence : String → Prop
  /-- The pattern is within the limits of size and of nesting. -/
  Fits : String → Prop
  /-- The pattern matches what stands in a text between two places. -/
  Matches : String → String → Nat → Nat → Prop

/-- No group of the pattern has a name, as names stand in angle brackets. -/
def Nameless (p : String) : Prop :=
  '<' ∉ p.toList

namespace PatternLanguage

/-- The pattern is well formed, and so finished that a parenthesis behind it would close a group that has
    not been opened. A comment at the end of a pattern would take the parenthesis for a part of it. -/
def Closed (L : PatternLanguage) (p : String) : Prop :=
  L.IsPattern p ∧ ¬ L.IsPattern (p ++ ")")

/-- Somewhere in the text a parenthesis closes a group that has not been opened. -/
def ClosesUnopened (L : PatternLanguage) (p : String) : Prop :=
  ∃ q s, p = q ++ ")" ++ s ∧ L.Closed q

/-- The laws of the syntax. -/
structure Laws (L : PatternLanguage) : Prop where
  /-- In a sequence everything that is opened is closed. -/
  closed_of_isSequence {a : String} : L.IsSequence a → L.Closed a
  letter {c : Char} : c.isAlpha → L.IsSequence (String.singleton c)
  caret : L.IsSequence "^"
  dollar : L.IsSequence "$"
  /-- Two groups must not have the same name. -/
  append {a b : String} :
    L.IsSequence a → L.IsSequence b → Nameless a ∨ Nameless b → L.IsSequence (a ++ b)
  branch {a b : String} :
    L.IsSequence a → L.IsSequence b → Nameless a ∨ Nameless b → L.IsPattern (a ++ "|" ++ b)
  group {p : String} : L.Closed p → L.IsSequence ("(?:" ++ p ++ ")")
  capture {p : String} : L.Closed p → L.IsSequence ("(" ++ p ++ ")")
  /-- A group that is opened is closed by some parenthesis, and what it encloses is a pattern. -/
  closes {a rest : String} : L.IsSequence a → L.IsPattern (a ++ "(?:" ++ rest) →
    ∃ q s, rest = q ++ ")" ++ s ∧ L.Closed q
  /-- Whatever comes after it, a group that is closed must have been opened. -/
  unopened {p s : String} : L.Closed p → ¬ L.IsPattern (p ++ ")" ++ s)
  /-- A letter matches itself. -/
  matches_letter {c : Char} {text : String} {i j : Nat} : c.isAlpha →
    (L.Matches (String.singleton c) text i j ↔ text.toList[i]? = some c ∧ j = i + 1)
  /-- A caret matches at the beginning of the text. -/
  matches_caret {text : String} {i j : Nat} : L.Matches "^" text i j ↔ i = 0 ∧ j = 0
  /-- A dollar sign matches at the end of the text. -/
  matches_dollar {text : String} {i j : Nat} :
    L.Matches "$" text i j ↔ i = text.length ∧ j = text.length
  /-- The second part of a sequence matches from where the first ends. -/
  matches_append {a b text : String} {i j : Nat} :
    L.IsSequence a → L.IsSequence b → Nameless a ∨ Nameless b →
      (L.Matches (a ++ b) text i j ↔ ∃ k, L.Matches a text i k ∧ L.Matches b text k j)
  /-- One of two branches matches. -/
  matches_branch {a b text : String} {i j : Nat} :
    L.IsSequence a → L.IsSequence b → Nameless a ∨ Nameless b →
      (L.Matches (a ++ "|" ++ b) text i j ↔ L.Matches a text i j ∨ L.Matches b text i j)
  matches_group {p text : String} {i j : Nat} : L.Closed p →
    (L.Matches ("(?:" ++ p ++ ")") text i j ↔ L.Matches p text i j)
  matches_capture {p text : String} {i j : Nat} : L.Closed p →
    (L.Matches ("(" ++ p ++ ")") text i j ↔ L.Matches p text i j)

end PatternLanguage

/-- What is promised of an engine for a language of patterns. -/
structure RegexEngine.Implements (R : Type) [RegexEngine R] (L : PatternLanguage) : Prop where
  /-- What is well formed and within the limits compiles, and nothing else does. -/
  compile?_isSome_iff {p : String} :
    (RegexEngine.compile? p : Option R).isSome = true ↔ L.IsPattern p ∧ L.Fits p
  /-- A search looks for a match anywhere in the text. -/
  isMatch_iff {p text : String} {r : R} : RegexEngine.compile? p = some r →
    (RegexEngine.isMatch r text = true ↔ ∃ i j, L.Matches p text i j)

end Earley
