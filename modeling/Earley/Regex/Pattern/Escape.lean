import Earley.Regex.Expr
import Earley.Regex.Pattern.Flags

/-!
# Escapes

What a backslash and the characters after it stand for. The letters `p` and `P`, which elsewhere begin
a set of characters given by a property (`\p{Greek}`, `\pL`), have no such use here: a pattern with
one of them is faulty.
-/

namespace Earley.Regex

/-- What an escape stands for. -/
inductive Escape where
  | literal (c : Char)
  | set (chars : CharSet)
  | anchor (condition : Anchor)
deriving DecidableEq, Repr

/-- Characters with a meaning of their own in patterns. -/
def isMeta (c : Char) : Bool :=
  "\\.+*?()|[]\x7b\x7d^$#&-~".toList.contains c

/-- Whether a backslash in front of the character makes it stand for itself. Letters and digits are
    kept for other uses, and so are angle brackets. -/
def isEscapable (c : Char) : Bool :=
  isMeta c || (c.toNat < 128 && !c.isAlphanum && c ≠ '<' && c ≠ '>')

/-- The value of a hexadecimal digit. -/
def hexDigit? (c : Char) : Option Nat :=
  if '0' ≤ c ∧ c ≤ '9' then some (c.toNat - '0'.toNat)
  else if 'a' ≤ c ∧ c ≤ 'f' then some (c.toNat - 'a'.toNat + 10)
  else if 'A' ≤ c ∧ c ≤ 'F' then some (c.toNat - 'A'.toNat + 10)
  else none

/-- The literal of this number, unless it is that of a surrogate or too large. -/
def hexLiteral (n : Nat) : Except PatternError Escape :=
  if n.isValidChar then .ok (.literal (Char.ofNat n)) else .error .hexInvalid

/-- Reads exactly `count` hexadecimal digits. -/
def readHexDigits (flags : Flags) (value : Nat) :
    Nat → List Char → Except PatternError (Escape × List Char)
  | 0, rest => do return (← hexLiteral value, rest)
  | _ + 1, [] => .error .escapeUnfinished
  | count + 1, c :: rest =>
    match hexDigit? c with
    | none => .error .hexInvalidDigit
    | some digit => readHexDigits flags (16 * value + digit) count (skip flags rest)

/-- The number that hexadecimal digits stand for. -/
def hexValue (digits : List Nat) : Nat :=
  digits.foldl (16 * · + ·) 0

/-- Reads hexadecimal digits up to a closing brace. Blanks between them are dropped beforehand, so
    that a skipped blank is as good as none. -/
def readHexBraced (flags : Flags) (digits : List Nat) (inComment : Bool) :
    List Char → Except PatternError (Escape × List Char)
  | [] => .error .escapeUnfinished
  | c :: rest =>
    if inComment then readHexBraced flags digits (c ≠ '\n') rest
    else if flags.verbose && isSpace c then readHexBraced flags digits false rest
    else if flags.verbose && c = '#' then readHexBraced flags digits true rest
    else if c = '\x7d' then
      if digits.isEmpty then .error .hexEmpty
      else do return (← hexLiteral (hexValue digits), skip flags rest)
    else
      match hexDigit? c with
      | none => .error .hexInvalidDigit
      | some digit => readHexBraced flags (digits ++ [digit]) false rest

/-- Reads the number of a character, of `count` digits unless it stands in braces. -/
def readHex (flags : Flags) (count : Nat) (rest : List Char) :
    Except PatternError (Escape × List Char) :=
  match skip flags rest with
  | [] => .error .escapeUnfinished
  | '\x7b' :: rest => readHexBraced flags [] false rest
  | rest => readHexDigits flags 0 count rest

/-- Whether a character can stand in the name of a special word boundary. -/
def isBoundaryLetter (c : Char) : Bool :=
  c.isAlpha || c = '-'

/-- Reads the name of a special word boundary up to the closing brace. -/
def readBoundaryName (flags : Flags) (name : List Char) (inComment : Bool) :
    List Char → Except PatternError (Escape × List Char)
  | [] => .error .boundaryUnclosed
  | c :: rest =>
    if inComment then readBoundaryName flags name (c ≠ '\n') rest
    else if flags.verbose && isSpace c then readBoundaryName flags name false rest
    else if flags.verbose && c = '#' then readBoundaryName flags name true rest
    else if isBoundaryLetter c then readBoundaryName flags (name ++ [c]) false rest
    else if c = '\x7d' then
      match String.ofList name with
      | "start" => .ok (.anchor .wordStart, rest)
      | "end" => .ok (.anchor .wordEnd, rest)
      | "start-half" => .ok (.anchor .wordStartHalf, rest)
      | "end-half" => .ok (.anchor .wordEndHalf, rest)
      | _ => .error .boundaryUnrecognized
    else .error .boundaryUnclosed

/-- Reads what comes after `\b`. A brace that does not begin a name is left for a repetition. -/
def readBoundary (flags : Flags) (rest : List Char) : Except PatternError (Escape × List Char) :=
  match rest with
  | '\x7b' :: inner =>
    match skip flags inner with
    | [] => .error .boundaryUnclosed
    | c :: name =>
      if isBoundaryLetter c then readBoundaryName flags [c] false name
      else .ok (.anchor .wordBoundary, rest)
  | _ => .ok (.anchor .wordBoundary, rest)

/-- Reads what comes after a backslash. There are no escapes for properties of characters. -/
def readEscape (flags : Flags) : List Char → Except PatternError (Escape × List Char)
  | [] => .error .escapeUnfinished
  | c :: rest =>
    if c.isDigit then .error .backreference
    else if isEscapable c then .ok (.literal c, rest)
    else
      match c with
      | 'x' => readHex flags 2 rest
      | 'u' => readHex flags 4 rest
      | 'U' => readHex flags 8 rest
      | 'd' => .ok (.set .digit, rest)
      | 's' => .ok (.set .space, rest)
      | 'w' => .ok (.set .word, rest)
      | 'D' => .ok (.set (.compl .digit), rest)
      | 'S' => .ok (.set (.compl .space), rest)
      | 'W' => .ok (.set (.compl .word), rest)
      | 'a' => .ok (.literal '\x07', rest)
      | 'f' => .ok (.literal '\x0c', rest)
      | 't' => .ok (.literal '\t', rest)
      | 'n' => .ok (.literal '\n', rest)
      | 'r' => .ok (.literal '\r', rest)
      | 'v' => .ok (.literal '\x0b', rest)
      | 'A' => .ok (.anchor .textStart, rest)
      | 'z' => .ok (.anchor .textEnd, rest)
      | 'b' => readBoundary flags rest
      | 'B' => .ok (.anchor .noWordBoundary, rest)
      | '<' => .ok (.anchor .wordStart, rest)
      | '>' => .ok (.anchor .wordEnd, rest)
      | _ => .error .escapeUnrecognized

end Earley.Regex
