import Earley.Regex.Basic

/-!
# Engines

Tokenizers and words leave patterns to an engine, which compiles them and searches texts for them. They
use it through the operations below and know nothing else about it.
-/

namespace Earley

/-- A type of compiled patterns. -/
class RegexEngine (R : Type) where
  /-- The compiled form of a pattern, unless it is faulty or exceeds the limits of the engine. -/
  compile? : String → Option R
  /-- The pattern as it was written. -/
  pattern : R → String
  /-- Whether the pattern matches some part of a text. -/
  isMatch : R → String → Bool
  /-- The pieces of a text between successive matches, empty pieces included. -/
  split : R → String → List String

/-- The engine that programs run with. -/
instance : RegexEngine Regex where
  compile? pattern := (Regex.compile pattern).toOption
  pattern := Regex.pattern
  isMatch := Regex.isMatch
  split := Regex.split

end Earley
