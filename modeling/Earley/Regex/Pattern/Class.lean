import Earley.Regex.Pattern.Escape

/-!
# Bracketed classes

A class in brackets is a union of characters, ranges, escapes and nested classes, or the result of
operations on such unions. Sets that are given by a property of characters are not among the escapes.
All operations bind alike and group to the left. Classes still open wait in a list together with
operations whose right side is still being read.

The height of a class tells how deeply unions, operations and brackets are nested in it.
-/

namespace Earley.Regex

/-- An operation on sets. -/
inductive SetOp where
  | inter
  | diff
  | symmDiff
deriving DecidableEq, Repr

/-- A set with the height of what it was read from. -/
structure ClassSet where
  chars : CharSet
  height : Nat

/-- The items of a union read so far: their union, their number, and the greatest of their
    heights. -/
structure ClassUnion where
  chars : CharSet := .nothing
  count : Nat := 0
  height : Nat := 0

namespace ClassUnion

/-- Adds an item. -/
def add (u : ClassUnion) (item : ClassSet) : ClassUnion :=
  ⟨u.chars.union item.chars, u.count + 1, max u.height item.height⟩

/-- The set of the union. A single item counts as itself. -/
def toSet (u : ClassUnion) : ClassSet :=
  ⟨u.chars, if u.count ≤ 1 then u.height else u.height + 1⟩

end ClassUnion

/-- What waits for the end of the part of a class that is being read. -/
inductive ClassFrame where
  /-- A class with what had been read in front of it in the class around it. -/
  | opened (outer : ClassUnion) (negated : Bool)
  /-- An operation with its left side. -/
  | operation (op : SetOp) (left : ClassSet)

/-- Makes letter case irrelevant where the flags say so. -/
def Flags.fold (flags : Flags) (set : CharSet) : CharSet :=
  if flags.caseless then set.caseless else set

/-- The result of an operation. Letter case is settled on both sides beforehand. -/
def SetOp.apply (op : SetOp) (flags : Flags) (left right : CharSet) : CharSet :=
  match op with
  | inter => .inter (flags.fold left) (flags.fold right)
  | diff => .diff (flags.fold left) (flags.fold right)
  | symmDiff => .symmDiff (flags.fold left) (flags.fold right)

/-- Carries out an operation that waits for its right side. -/
def closeOperation (flags : Flags) (right : ClassSet) :
    List ClassFrame → ClassSet × List ClassFrame
  | .operation op left :: frames =>
    (⟨op.apply flags left.chars right.chars, max left.height right.height + 1⟩, frames)
  | frames => (right, frames)

/-- The set of a class in brackets. Letter case is settled before negation. -/
def closeClass (flags : Flags) (negated : Bool) (set : CharSet) : CharSet :=
  if negated then .compl (flags.fold set) else flags.fold set

/-- The classes with a name, as ranges of characters below 128. -/
def namedClass? (name : String) : Option CharSet :=
  let ranges : Option (List (Char × Char)) :=
    match name with
    | "alnum" => some [('0', '9'), ('A', 'Z'), ('a', 'z')]
    | "alpha" => some [('A', 'Z'), ('a', 'z')]
    | "ascii" => some [('\x00', '\x7f')]
    | "blank" => some [('\t', '\t'), (' ', ' ')]
    | "cntrl" => some [('\x00', '\x1f'), ('\x7f', '\x7f')]
    | "digit" => some [('0', '9')]
    | "graph" => some [('!', '~')]
    | "lower" => some [('a', 'z')]
    | "print" => some [(' ', '~')]
    | "punct" => some [('!', '/'), (':', '@'), ('[', '\x60'), ('\x7b', '~')]
    | "space" => some [('\t', '\r'), (' ', ' ')]
    | "upper" => some [('A', 'Z')]
    | "word" => some [('0', '9'), ('A', 'Z'), ('_', '_'), ('a', 'z')]
    | "xdigit" => some [('0', '9'), ('A', 'F'), ('a', 'f')]
    | _ => none
  ranges.map fun rs => CharSet.unionAll (rs.map fun (first, last) => .range first last)

/-- Reads a class with a name after its opening bracket, such as `:alpha:]` or `:^alpha:]`. Gives
    `none` where no such class stands there. -/
def readNamedClass? (flags : Flags) (rest : List Char) : Option (CharSet × List Char) :=
  match rest with
  | ':' :: rest =>
    let (negated, rest) :=
      match rest with
      | '^' :: rest => (true, rest)
      | rest => (false, rest)
    let name := rest.takeWhile (· ≠ ':')
    match rest.dropWhile (· ≠ ':') with
    | ':' :: ']' :: rest =>
      (namedClass? (String.ofList name)).map fun set => (closeClass flags negated set, rest)
    | _ => none
  | _ => none

/-- Takes the hyphens at the beginning of a class as characters. -/
def readHyphens (flags : Flags) (items : ClassUnion) (inComment : Bool) :
    List Char → Except PatternError (ClassUnion × List Char)
  | [] => .error .classUnclosed
  | c :: rest =>
    if inComment then readHyphens flags items (c ≠ '\n') rest
    else if flags.verbose && isSpace c then readHyphens flags items false rest
    else if flags.verbose && c = '#' then readHyphens flags items true rest
    else if c = '-' then readHyphens flags (items.add ⟨.single '-', 0⟩) false rest
    else .ok (items, c :: rest)

/-- Reads the beginning of a class after its opening bracket: whether it is negated, and the
    characters that have no meaning of their own there. -/
def readClassStart (flags : Flags) (rest : List Char) :
    Except PatternError (Bool × ClassUnion × List Char) := do
  let (negated, rest) ←
    match skip flags rest with
    | [] => throw .classUnclosed
    | '^' :: rest => pure (true, skip flags rest)
    | rest => pure (false, rest)
  let (items, rest) ← readHyphens flags {} false rest
  match items.count, rest with
  | 0, ']' :: rest =>
    let rest := skip flags rest
    if rest.isEmpty then throw .classUnclosed
    return (negated, items.add ⟨.single ']', 0⟩, rest)
  | _, _ => return (negated, items, rest)

/-- Reads a character or an escape of a class. -/
def readClassItem (flags : Flags) : List Char → Except PatternError (Escape × List Char)
  | [] => .error .classUnclosed
  | '\\' :: rest => readEscape flags rest
  | c :: rest => .ok (.literal c, rest)

/-- The set that an escape stands for in a class. -/
def Escape.toSet : Escape → Except PatternError CharSet
  | literal c => .ok (.single c)
  | set chars => .ok chars
  | anchor _ => .error .classEscapeInvalid

/-- The character that an escape stands for at an end of a range. -/
def Escape.toRangeEnd : Escape → Except PatternError Char
  | literal c => .ok c
  | _ => .error .classRangeEnd

/-- The first character from which on blanks no longer matter, looking past at most one sign that
    begins a comment. -/
def glance (flags : Flags) (rest : List Char) : Option Char :=
  if flags.verbose then
    match rest.dropWhile isSpace with
    | [] => rest.head?
    | '#' :: more =>
      match more.dropWhile isSpace with
      | [] => rest.head?
      | c :: _ => some c
    | c :: _ => some c
  else
    rest.head?

/-- Reads a character, an escape, or a range between two characters. A hyphen in front of a closing
    bracket or another hyphen does not make a range. -/
def readClassRange (flags : Flags) (rest : List Char) :
    Except PatternError (CharSet × List Char) := do
  let (first, rest) ← readClassItem flags rest
  match skip flags rest with
  | [] => throw .classUnclosed
  | '-' :: rest =>
    let next := glance flags rest
    if next = some ']' ∨ next = some '-' then
      return (← first.toSet, '-' :: rest)
    let rest := skip flags rest
    if rest.isEmpty then throw .classUnclosed
    let (last, rest) ← readClassItem flags rest
    let first ← first.toRangeEnd
    let last ← last.toRangeEnd
    if last < first then throw .classRangeInvalid
    return (.range first last, rest)
  | rest => return (← first.toSet, rest)

/-- What is left to read in a class, or the finished class. -/
inductive ClassOutcome where
  | reading (items : ClassUnion) (frames : List ClassFrame) (rest : List Char)
  | finished (set : ClassSet) (rest : List Char)

/-- Reads one part of a class. `items` is the union read so far, and `frames` is what waits. -/
def readClassPart (flags : Flags) (items : ClassUnion) (frames : List ClassFrame)
    (rest : List Char) : Except PatternError ClassOutcome :=
  match skip flags rest with
  | [] => .error .classUnclosed
  | '[' :: rest =>
    match readNamedClass? flags rest with
    | some (named, rest) => .ok (.reading (items.add ⟨named, 0⟩) frames rest)
    | none => do
      let (negated, inner, rest) ← readClassStart flags rest
      return .reading inner (.opened items negated :: frames) rest
  | ']' :: rest =>
    let (set, frames) := closeOperation flags items.toSet frames
    match frames with
    | .opened outer negated :: frames =>
      let set : ClassSet := ⟨closeClass flags negated set.chars, set.height + 1⟩
      if frames.isEmpty then .ok (.finished set rest)
      else .ok (.reading (outer.add set) frames rest)
    | _ => .error .stuck
  | '&' :: '&' :: rest =>
    let (left, frames) := closeOperation flags items.toSet frames
    .ok (.reading {} (.operation .inter left :: frames) rest)
  | '-' :: '-' :: rest =>
    let (left, frames) := closeOperation flags items.toSet frames
    .ok (.reading {} (.operation .diff left :: frames) rest)
  | '~' :: '~' :: rest =>
    let (left, frames) := closeOperation flags items.toSet frames
    .ok (.reading {} (.operation .symmDiff left :: frames) rest)
  | rest => do
    let (item, rest) ← readClassRange flags rest
    return .reading (items.add ⟨item, 0⟩) frames rest

/-- Reads a class to its end. Every part takes at least one character, so a budget of one part
    more than there are characters is enough. -/
def readClassParts (flags : Flags) (items : ClassUnion) (frames : List ClassFrame)
    (rest : List Char) (budget : Nat) : Except PatternError (ClassSet × List Char) :=
  match budget with
  | 0 => .error .stuck
  | budget + 1 =>
    match readClassPart flags items frames rest with
    | .error e => .error e
    | .ok (.finished set rest) => .ok (set, rest)
    | .ok (.reading items frames rest) => readClassParts flags items frames rest budget

/-- Reads a class after its opening bracket. -/
def readClass (flags : Flags) (rest : List Char) (budget : Nat) :
    Except PatternError (ClassSet × List Char) := do
  let (negated, items, rest) ← readClassStart flags rest
  readClassParts flags items [.opened {} negated] rest budget

end Earley.Regex
