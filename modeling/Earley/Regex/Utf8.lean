import Earley.Regex.CharSet

/-!
# Encodings

In UTF-8 a character is a leading byte and up to three bytes that continue it, each of which holds a
digit of its number to the base 64. The encodings of the characters of a range are the members of a
few sequences of byte ranges.
-/

namespace Earley.Regex

/-- The bytes from `first` to `last`. -/
structure ByteRange where
  first : Nat
  last : Nat
deriving DecidableEq, Repr

/-- The encodings of the numbers from `low` to `high` by a leading byte above `mark`, which holds
    the first digit, and by `count` bytes above 128. Where a digit is any of several, all digits
    behind it are arbitrary. -/
def encodings (mark : Nat) : Nat → Nat → Nat → List (List ByteRange)
  | 0, low, high => [[⟨mark + low, mark + high⟩]]
  | count + 1, low, high =>
    let unit := 64 ^ (count + 1)
    let under (digits : ByteRange) (low high : Nat) :=
      (encodings 128 count low high).map (⟨mark + digits.first, mark + digits.last⟩ :: ·)
    let first := low / unit
    let last := high / unit
    if first = last then under ⟨first, first⟩ (low % unit) (high % unit)
    else
      -- The first digits under which the other digits are arbitrary.
      let whole : ByteRange :=
        ⟨if low % unit = 0 then first else first + 1,
          if high % unit = unit - 1 then last else last - 1⟩
      (if whole.first = first then [] else under ⟨first, first⟩ (low % unit) (unit - 1)) ++
        (if whole.first ≤ whole.last then under whole 0 (unit - 1) else []) ++
        (if whole.last = last then [] else under ⟨last, last⟩ 0 (high % unit))

/-- Characters whose encodings have the same form: their numbers, what the leading byte is above,
    and how many bytes continue it. -/
structure EncodingBlock where
  low : Nat
  high : Nat
  mark : Nat
  count : Nat

/-- All characters by the form of their encodings. Surrogates have none. -/
def encodingBlocks : List EncodingBlock :=
  [⟨0, 0x7F, 0, 0⟩, ⟨0x80, 0x7FF, 0xC0, 1⟩, ⟨0x800, 0xD7FF, 0xE0, 2⟩, ⟨0xE000, 0xFFFF, 0xE0, 2⟩,
   ⟨0x10000, 0x10FFFF, 0xF0, 3⟩]

/-- The encodings of the members of a set, in ascending order. -/
def CharSet.encodings (set : CharSet) : List (List ByteRange) :=
  set.ranges.flatMap fun r =>
    encodingBlocks.flatMap fun block =>
      let low := max r.1 block.low
      let high := min r.2 block.high
      if low ≤ high then Regex.encodings block.mark block.count low high else []

/-- The bytes of the encoding of a text. -/
def encode (text : List Char) : List Nat :=
  (text.flatMap String.utf8EncodeChar).map (·.toNat)

end Earley.Regex
