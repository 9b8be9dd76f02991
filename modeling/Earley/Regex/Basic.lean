import Earley.Regex.Footprint
import Earley.Regex.Pattern.Basic
import Earley.Regex.Reach
import Earley.Regex.Search

/-!
# Compiled patterns

The engine that programs run with. A compiled pattern is a pattern with the expression that it denotes,
provided that the automata of the expression are not too large.

The patterns are those that the modules below `Pattern` read. They lack sets of characters that are
given by a property, such as a script or a category, and groups in which bytes take the place of
characters.
-/

namespace Earley

/-- A pattern that denotes a regular expression. -/
structure Regex where
  pattern : String
  expr : Regex.Expr
  compiled : Regex.parse pattern = .ok expr
  fits : expr.normalize.fits = true

namespace Regex

/-- Compiles a pattern. -/
def compile (pattern : String) : Except PatternError Regex :=
  match h : parse pattern with
  | .error e => .error e
  | .ok expr =>
    if hfits : expr.normalize.fits then .ok ⟨pattern, expr, h, hfits⟩ else .error .tooLarge

/-- Whether an expression matches some part of a text. -/
def Expr.isMatch (e : Expr) (text : String) : Bool :=
  e.matchesSomewhere text.toList.toArray

/-- The pieces of a text between successive matches of an expression, empty pieces included. -/
def Expr.split (e : Expr) (text : String) : List String :=
  let chars := text.toList.toArray
  pieces chars 0 (allMatches e.normalize.program chars)

/-- Whether the pattern matches some part of a text. -/
def isMatch (r : Regex) (text : String) : Bool :=
  r.expr.isMatch text

/-- The pieces of a text between successive matches, empty pieces included. -/
def split (r : Regex) (text : String) : List String :=
  r.expr.split text

end Regex

end Earley
