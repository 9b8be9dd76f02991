import Earley.Regex.CharSet
import Earley.Regex.Pattern.Error

/-!
# Flags and blanks

Flags change how the rest of a group is read. Under the flag `x` blanks and comments between the
parts of a pattern are skipped. Patterns are always matched by characters: the flag `u`, which elsewhere
can be cleared to match by bytes, can only be set.
-/

namespace Earley.Regex

/-- The flags in force. -/
structure Flags where
  /-- `i`: letter case is irrelevant. -/
  caseless : Bool := false
  /-- `m`: `^` and `$` hold at every line. -/
  multiLine : Bool := false
  /-- `s`: the dot admits line ends. -/
  dotAll : Bool := false
  /-- `U`: greedy and lazy loops change places. -/
  swapGreed : Bool := false
  /-- `x`: blanks and comments are skipped. -/
  verbose : Bool := false
  /-- `R`: a carriage return ends a line, too. -/
  anyLineEnd : Bool := false
deriving DecidableEq, Repr

/-- The letter of a flag, with what it sets. The letter `u` stands for what is always in force and
    cannot be cleared. -/
def setFlag (letter : Char) (value : Bool) (flags : Flags) : Except PatternError Flags :=
  match letter with
  | 'i' => .ok { flags with caseless := value }
  | 'm' => .ok { flags with multiLine := value }
  | 's' => .ok { flags with dotAll := value }
  | 'U' => .ok { flags with swapGreed := value }
  | 'x' => .ok { flags with verbose := value }
  | 'R' => .ok { flags with anyLineEnd := value }
  | 'u' => if value then .ok flags else .error .flagUnrecognized
  | _ => .error .flagUnrecognized

/-- Reads flags up to the colon or the parenthesis after them, and gives the flags then in force,
    that character, and the rest. `seen` holds the letters read so far, `negated` says whether a
    minus has been read, and `dangling` whether it was the last character. -/
def readFlags (flags : Flags) (seen : List Char) (negated dangling : Bool) :
    List Char → Except PatternError (Flags × Char × List Char)
  | [] => .error .flagsUnclosed
  | c :: rest =>
    if c = ':' ∨ c = ')' then
      if dangling then .error .flagDanglingNegation else .ok (flags, c, rest)
    else if c = '-' then
      if negated then .error .flagRepeatedNegation
      else if rest.isEmpty then .error .flagsUnclosed
      else readFlags flags seen true true rest
    else
      match setFlag c (!negated) flags with
      | .error e => .error e
      | .ok flags =>
        if seen.contains c then .error .flagDuplicate
        else readFlags flags (c :: seen) negated false rest

/-- Drops blanks, and comments from `#` to the end of the line. -/
def dropBlanks (inComment : Bool) : List Char → List Char
  | [] => []
  | c :: rest =>
    if inComment then dropBlanks (c ≠ '\n') rest
    else if isSpace c then dropBlanks false rest
    else if c = '#' then dropBlanks true rest
    else c :: rest

/-- Drops what the flags allow to be skipped. -/
def skip (flags : Flags) (rest : List Char) : List Char :=
  if flags.verbose then dropBlanks false rest else rest

end Earley.Regex
