import Earley.Regex.Pattern.Class
import Earley.Regex.Pattern.Group
import Earley.Regex.Pattern.Repetition

/-!
# Patterns

Reading a pattern gives the regular expression that it denotes, if it is a pattern of this engine. The
branches and pieces of the group being read are collected, and those of the groups around it wait in a
list.

A lone closing bracket or brace stands for itself. Nesting is limited: the height of what has been
read tells how deeply groups, repetitions, sequences, choices and classes are nested in it.
-/

namespace Earley.Regex

/-- An expression with the height of what it was read from. -/
structure Term where
  expr : Expr
  height : Nat

namespace Term

/-- The height of what consists of several terms, and that of a term that stands alone. -/
def heightOfAll : List Term → Nat
  | [] => 0
  | [t] => t.height
  | terms => (terms.map (·.height)).foldl max 0 + 1

/-- The sequence of a list of terms. -/
def seqAll (terms : List Term) : Term :=
  ⟨.seqAll (terms.map (·.expr)), heightOfAll terms⟩

/-- The choice between the terms of a list. -/
def choiceAll (terms : List Term) : Term :=
  ⟨.choiceAll (terms.map (·.expr)), heightOfAll terms⟩

def group (index? : Option Nat) (body : Term) : Term :=
  ⟨.group index? body.expr, body.height + 1⟩

def loop (body : Term) (min : Nat) (max : Option Nat) (greedy : Bool) : Term :=
  ⟨.loop body.expr min max greedy, body.height + 1⟩

/-- What has no parts. -/
def leaf (expr : Expr) : Term :=
  ⟨expr, 0⟩

end Term

/-- A part of a branch. -/
inductive Piece where
  | term (t : Term)
  /-- A change of flags, which matches the empty text and cannot be repeated. -/
  | directive

/-- The term of a part. -/
def Piece.toTerm : Piece → Term
  | term t => t
  | directive => .leaf .empty

/-- The branches of a group read so far, and the pieces of the last one, the latest first. -/
structure OpenGroup where
  branches : List Term
  pieces : List Piece

/-- A group that waits for a group inside it: the flags in force in it, and the index of the group
    inside it if that has one. -/
structure Waiting where
  flags : Flags
  index? : Option Nat
  outer : OpenGroup

/-- A pattern that has been read up to some place. -/
structure Reading where
  flags : Flags
  names : List String
  /-- The number of groups with an index. -/
  captures : Nat
  current : OpenGroup
  waiting : List Waiting
  rest : List Char

namespace OpenGroup

/-- A group of which nothing has been read. -/
def empty : OpenGroup :=
  ⟨[], []⟩

/-- The last branch. -/
def lastBranch (p : OpenGroup) : Term :=
  .seqAll (p.pieces.reverse.map (·.toTerm))

/-- Begins another branch. -/
def nextBranch (p : OpenGroup) : OpenGroup :=
  ⟨p.lastBranch :: p.branches, []⟩

/-- What has been read of the group. -/
def body (p : OpenGroup) : Term :=
  .choiceAll (p.lastBranch :: p.branches).reverse

/-- Adds a piece to the last branch. -/
def push (p : OpenGroup) (t : Term) : OpenGroup :=
  { p with pieces := .term t :: p.pieces }

/-- Repeats the last piece. -/
def repeatLast (p : OpenGroup) (min : Nat) (max : Option Nat) (greedy : Bool) :
    Except PatternError OpenGroup :=
  match p.pieces with
  | .term t :: pieces => .ok { p with pieces := .term (t.loop min max greedy) :: pieces }
  | _ => .error .repetitionMissing

end OpenGroup

namespace Flags

/-- The expression of a character. -/
def literal (flags : Flags) (c : Char) : Expr :=
  .ofSet (flags.fold (.single c))

/-- The expression of a dot. -/
def dot (flags : Flags) : Expr :=
  .set <|
    if flags.dotAll then .any
    else if flags.anyLineEnd then .compl (.union (.single '\r') (.single '\n'))
    else .compl (.single '\n')

/-- The condition of a caret. -/
def caret (flags : Flags) : Anchor :=
  if flags.multiLine then (if flags.anyLineEnd then .anyLineStart else .lineStart) else .textStart

/-- The condition of a dollar sign. -/
def dollar (flags : Flags) : Anchor :=
  if flags.multiLine then (if flags.anyLineEnd then .anyLineEnd else .lineEnd) else .textEnd

/-- The expression of an escape. -/
def escape (flags : Flags) : Escape → Expr
  | .literal c => flags.literal c
  | .set chars => .set chars
  | .anchor condition => .anchor condition

end Flags

namespace Reading

/-- Adds a piece that has no parts. -/
def pushLeaf (r : Reading) (e : Expr) (rest : List Char) : Reading :=
  { r with current := r.current.push (.leaf e), rest }

/-- Begins a group inside the current one. -/
def openGroup (r : Reading) (flags : Flags) (index? : Option Nat) (rest : List Char) : Reading :=
  { r with
    flags
    current := .empty
    waiting := ⟨r.flags, index?, r.current⟩ :: r.waiting
    rest }

end Reading

/-- Repeats the last piece by a sign of one character, which a question mark makes lazy. -/
def readSign (r : Reading) (min : Nat) (max : Option Nat) (rest : List Char) :
    Except PatternError Reading :=
  let (reversed, rest) :=
    match rest with
    | '?' :: rest => (true, rest)
    | rest => (false, rest)
  match r.current.repeatLast min max (reversed == r.flags.swapGreed) with
  | .error e => .error e
  | .ok current => .ok { r with current, rest }

/-- Reads one part of a pattern. The budget is for the parts of a class. -/
def readPart (r : Reading) (budget : Nat) : Char → List Char → Except PatternError Reading
  | '(', rest => do
    match ← readGroupStart r.flags r.names rest with
    | (.directive flags, rest) =>
      let current := { r.current with pieces := .directive :: r.current.pieces }
      return { r with flags, current, rest }
    | (.plain flags, rest) => return r.openGroup flags none rest
    | (.capture name?, rest) =>
      let index := r.captures + 1
      let r := { r with names := name?.toList ++ r.names, captures := index }
      return r.openGroup r.flags (some index) rest
  | ')', rest =>
    match r.waiting with
    | [] => .error .groupUnopened
    | ⟨flags, index?, outer⟩ :: waiting =>
      .ok { r with flags, current := outer.push (r.current.body.group index?), waiting, rest }
  | '|', rest => .ok { r with current := r.current.nextBranch, rest }
  | '[', rest => do
    let (set, rest) ← readClass r.flags rest budget
    return { r with current := r.current.push ⟨.set set.chars, set.height⟩, rest }
  | '?', rest => readSign r 0 (some 1) rest
  | '*', rest => readSign r 0 none rest
  | '+', rest => readSign r 1 none rest
  | '\x7b', rest => do
    if let [] := r.current.pieces then throw .repetitionMissing
    let (min, max, reversed, rest) ← readRepetition r.flags rest
    let current ← r.current.repeatLast min max (reversed == r.flags.swapGreed)
    return { r with current, rest }
  | '\\', rest => do
    let (escape, rest) ← readEscape r.flags rest
    return r.pushLeaf (r.flags.escape escape) rest
  | '.', rest => .ok (r.pushLeaf r.flags.dot rest)
  | '^', rest => .ok (r.pushLeaf (.anchor r.flags.caret) rest)
  | '$', rest => .ok (r.pushLeaf (.anchor r.flags.dollar) rest)
  | c, rest => .ok (r.pushLeaf (r.flags.literal c) rest)

/-- Reads a pattern to its end. Every part takes at least one character, so a budget of one part
    more than there are characters is enough. -/
def readParts (r : Reading) (budget : Nat) : Except PatternError Term :=
  match budget, skip r.flags r.rest with
  | _, [] => if r.waiting.isEmpty then .ok r.current.body else .error .groupUnclosed
  | 0, _ => .error .stuck
  | budget + 1, c :: rest =>
    match readPart r budget c rest with
    | .error e => .error e
    | .ok r => readParts r budget

/-- The greatest height that a pattern can have. -/
def heightLimit : Nat :=
  250

/-- The regular expression that a pattern denotes. -/
def parse (pattern : String) : Except PatternError Expr :=
  let chars := pattern.toList
  match readParts ⟨{}, [], 0, .empty, [], chars⟩ (chars.length + 1) with
  | .error e => .error e
  | .ok t => if heightLimit < t.height then .error .nestedTooDeeply else .ok t.expr

end Earley.Regex
