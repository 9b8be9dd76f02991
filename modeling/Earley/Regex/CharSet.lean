import Earley.Unicode.CaseFold
import Earley.Unicode.DecimalDigit
import Earley.Unicode.WhiteSpace
import Earley.Unicode.Word

/-!
# Sets of characters

The characters that one place of a pattern admits, as ranges of code points. The ranges ascend, and
two of them that follow one another without a gap are joined, so that sets which are built in
different ways can be compared as they stand. Surrogates are not characters: the one after U+D7FF is
U+E000, although ranges that end and begin there are not joined.
-/

namespace Earley.Regex

/-- A set of characters. -/
structure CharSet where
  ranges : Ranges
deriving DecidableEq, Repr

def isDigit (c : Char) : Bool :=
  Unicode.decimalDigit.covers c.toNat

def isSpace (c : Char) : Bool :=
  Unicode.whiteSpace.covers c.toNat

def isWord (c : Char) : Bool :=
  Unicode.word.covers c.toNat

namespace CharSet

def nothing : CharSet :=
  ⟨[]⟩

/-- The greatest code point. -/
def lastPoint : Nat :=
  0x10FFFF

/-- The set of all characters. -/
def any : CharSet :=
  ⟨[(0, lastPoint)]⟩

def digit : CharSet :=
  ⟨Unicode.decimalDigit⟩

def space : CharSet :=
  ⟨Unicode.whiteSpace⟩

def word : CharSet :=
  ⟨Unicode.word⟩

/-- The characters from `first` to `last`, both included. -/
def range (first last : Char) : CharSet :=
  ⟨[(first.toNat, last.toNat)]⟩

/-- The set of one character. -/
def single (c : Char) : CharSet :=
  range c c

/-- Whether the set holds a character. -/
def contains (set : CharSet) (c : Char) : Bool :=
  set.ranges.covers c.toNat

/-- The only member of a set that has just one. -/
def member? (set : CharSet) : Option Char :=
  match set.ranges with
  | [(first, last)] => if first = last then some (Char.ofNat first) else none
  | _ => none

/-- Whether all members lie below 128. -/
def isAscii (set : CharSet) : Bool :=
  set.ranges.all fun r => r.2 < 128

/-- Joins ranges in ascending order that overlap or follow one another without a gap. -/
def coalesce : Ranges → Ranges
  | (a, b) :: (c, d) :: rest =>
    if c ≤ b + 1 then coalesce ((a, max b d) :: rest)
    else (a, b) :: coalesce ((c, d) :: rest)
  | ranges => ranges
termination_by ranges => ranges.length

/-- Adds ranges in ascending order. -/
def add (set : CharSet) (ranges : Ranges) : CharSet :=
  ⟨coalesce (List.merge set.ranges ranges fun r q => r.1 ≤ q.1)⟩

def union (a b : CharSet) : CharSet :=
  a.add b.ranges

/-- The union of a list of sets. -/
def unionAll (sets : List CharSet) : CharSet :=
  sets.foldl union nothing

/-- What two lists of ranges have in common. -/
def overlap : Ranges → Ranges → Ranges
  | (a, b) :: rs, (c, d) :: qs =>
    let rest := if b < d then overlap rs ((c, d) :: qs) else overlap ((a, b) :: rs) qs
    if max a c ≤ min b d then (max a c, min b d) :: rest else rest
  | _, _ => []
termination_by rs qs => rs.length + qs.length

def inter (a b : CharSet) : CharSet :=
  ⟨overlap a.ranges b.ranges⟩

/-- The character after a code point. -/
def after (n : Nat) : Nat :=
  if n = 0xD7FF then 0xE000 else n + 1

/-- The character before a code point. -/
def before (n : Nat) : Nat :=
  if n = 0xE000 then 0xD7FF else n - 1

/-- The first and last character of each gap behind the first range. -/
def gapsAfter : Ranges → Ranges
  | (_, b) :: (c, d) :: rest => (after b, before c) :: gapsAfter ((c, d) :: rest)
  | [(_, b)] => if b < lastPoint then [(after b, lastPoint)] else []
  | [] => []

/-- The first and last character of each gap. Only a gap of surrogates alone has a last character
    in front of the first. -/
def gaps (ranges : Ranges) : Ranges :=
  match ranges with
  | [] => [(0, lastPoint)]
  | (a, b) :: rest => (if 0 < a then [(0, before a)] else []) ++ gapsAfter ((a, b) :: rest)

/-- The characters that the set does not hold. A gap of surrogates alone counts as the characters on
    both sides of it. -/
def compl (set : CharSet) : CharSet :=
  ⟨(gaps set.ranges).map fun r => (min r.1 r.2, max r.1 r.2)⟩

/-- The characters of `a` that are not in `b`. -/
def diff (a b : CharSet) : CharSet :=
  ⟨overlap a.ranges ((gaps b.ranges).filter fun r => r.1 ≤ r.2)⟩

/-- The characters that are in one of the sets, but not in both. -/
def symmDiff (a b : CharSet) : CharSet :=
  (a.union b).diff (a.inter b)

/-- What the members lead to along runs of case folding. -/
def along (set : CharSet) (runs : List Unicode.FoldRun) : Ranges :=
  let points := set.ranges.flatMap fun r =>
    runs.flatMap fun run => (run.between r.1 r.2).map run.image
  (points.mergeSort (· ≤ ·)).map fun n => (n, n)

/-- The characters that differ from a member in case alone. -/
def caseless (set : CharSet) : CharSet :=
  let folded := set.add (set.along Unicode.foldRuns)
  folded.add (folded.along (Unicode.foldRuns.map (·.reverse)))

end CharSet

end Earley.Regex
