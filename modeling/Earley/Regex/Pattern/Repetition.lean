import Earley.Regex.Pattern.Flags

/-!
# Counted repetition

A count in braces: exactly `n` times, at least `n` times, or from `n` to `m` times.
-/

namespace Earley.Regex

/-- The greatest count of a repetition. -/
def maxCount : Nat :=
  UInt32.size - 1

/-- Reads decimal digits. Between them blanks are skipped if the flags say so. -/
def readDigits (flags : Flags) (value? : Option Nat) (inComment : Bool) :
    List Char → Option Nat × List Char
  | [] => (value?, [])
  | c :: rest =>
    if inComment then readDigits flags value? (c ≠ '\n') rest
    else if c.isDigit then
      readDigits flags (some (10 * value?.getD 0 + (c.toNat - '0'.toNat))) false rest
    else if flags.verbose && isSpace c then readDigits flags value? false rest
    else if flags.verbose && c = '#' then readDigits flags value? true rest
    else (value?, c :: rest)

/-- Reads a decimal number with the white space around it, or nothing. -/
def readCount? (flags : Flags) (rest : List Char) :
    Except PatternError (Option Nat × List Char) :=
  match readDigits flags none false (rest.dropWhile isSpace) with
  | (none, rest) => .ok (none, rest)
  | (some n, rest) =>
    if maxCount < n then .error .repetitionCountTooLarge
    else .ok (some n, rest.dropWhile isSpace)

/-- Reads a decimal number with the white space around it. -/
def readCount (flags : Flags) (rest : List Char) : Except PatternError (Nat × List Char) :=
  match readCount? flags rest with
  | .error e => .error e
  | .ok (none, _) => .error .repetitionCountMissing
  | .ok (some n, rest) => .ok (n, rest)

/-- The closing brace of a repetition, and the question mark behind it that reverses its greed. -/
def readRepetitionEnd (flags : Flags) (min : Nat) (max : Option Nat) (rest : List Char) :
    Except PatternError (Nat × Option Nat × Bool × List Char) :=
  match rest with
  | '\x7d' :: rest =>
    if max.any (· < min) then .error .repetitionCountInvalid
    else
      match skip flags rest with
      | '?' :: rest => .ok (min, max, true, rest)
      | rest => .ok (min, max, false, rest)
  | _ => .error .repetitionUnclosed

/-- Reads a counted repetition after its opening brace: the least and the greatest count, whether
    its greed is reversed, and the rest. -/
def readRepetition (flags : Flags) (rest : List Char) :
    Except PatternError (Nat × Option Nat × Bool × List Char) := do
  let rest := skip flags rest
  if rest.isEmpty then throw .repetitionUnclosed
  let (min, rest) ← readCount flags rest
  match rest with
  | ',' :: rest =>
    let rest := skip flags rest
    match rest with
    | [] => throw .repetitionUnclosed
    | '\x7d' :: _ => readRepetitionEnd flags min none rest
    | _ =>
      let (max, rest) ← readCount flags rest
      readRepetitionEnd flags min (some max) rest
  | _ => readRepetitionEnd flags min (some min) rest

end Earley.Regex
