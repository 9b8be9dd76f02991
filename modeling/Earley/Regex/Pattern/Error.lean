/-!
# Why a pattern is not a regular expression
-/

namespace Earley.Regex

/-- A fault of a pattern. -/
inductive PatternError where
  | groupUnclosed
  | groupUnopened
  | lookAround
  | groupNameMissing
  | groupNameInvalid
  | groupNameDuplicate
  | flagUnrecognized
  | flagDuplicate
  | flagRepeatedNegation
  | flagDanglingNegation
  | flagsUnclosed
  /-- A repetition has nothing to repeat. -/
  | repetitionMissing
  | repetitionUnclosed
  | repetitionCountMissing
  | repetitionCountTooLarge
  /-- The least count is greater than the most. -/
  | repetitionCountInvalid
  | escapeUnfinished
  | escapeUnrecognized
  | backreference
  | hexEmpty
  | hexInvalidDigit
  /-- The number is not that of a character. -/
  | hexInvalid
  | boundaryUnclosed
  | boundaryUnrecognized
  | classUnclosed
  /-- What stands in brackets stands for no set of characters. -/
  | classEscapeInvalid
  /-- An end of a range is not a single character. -/
  | classRangeEnd
  /-- The first character of a range lies beyond the last. -/
  | classRangeInvalid
  /-- Groups, repetitions, branches and classes are nested too deeply. -/
  | nestedTooDeeply
  /-- The automata of the pattern would take too much memory. -/
  | tooLarge
  /-- Reading came to a halt in the middle of the pattern. -/
  | stuck
deriving DecidableEq, Repr

end Earley.Regex
