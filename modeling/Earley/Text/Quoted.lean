import Earley.Unicode.Escaped

/-!
# Quoted text

The quoted form of a character or a text stands between two delimiters. The delimiter itself, the
backslash and the usual controls get a backslash, characters without a glyph of their own are
written by number, and all others stand for themselves.
-/

namespace Earley.Quoted

/-- What the character `c` is written as between two delimiters `delimiter`. -/
def escape (delimiter c : Char) : List Char :=
  if c = '\t' then ['\\', 't']
  else if c = '\r' then ['\\', 'r']
  else if c = '\n' then ['\\', 'n']
  else if c = '\x00' then ['\\', '0']
  else if c = '\\' ∨ c = delimiter then ['\\', c]
  else if Unicode.escaped.covers c.toNat then
    -- Lowercase hexadecimal digits, as many as the number needs.
    "\\u\x7b".toList ++ Nat.toDigits 16 c.toNat ++ "\x7d".toList
  else [c]

/-- The characters `cs` between two delimiters. -/
def enclose (delimiter : Char) (cs : List Char) : String :=
  String.ofList (delimiter :: cs.flatMap (escape delimiter) ++ [delimiter])

/-- A text in double quotes. -/
def text (s : String) : String :=
  enclose '"' s.toList

/-- A character in single quotes. -/
def char (c : Char) : String :=
  enclose '\'' [c]

end Earley.Quoted
