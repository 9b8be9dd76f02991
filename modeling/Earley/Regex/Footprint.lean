import Earley.Regex.NormalForm
import Earley.Regex.Utf8

/-!
# The size of automata

The limits of this engine. A pattern is usable only if two automata over bytes that recognize it stay
within a limit of memory: one that reads forward and notes where groups begin and end, and one that
reads backward. Here the automata are laid out without being built: all that counts is how many states
there are and how many bytes they take.

A state takes 32 bytes, a transition of a state with a list of them 8 bytes more, and a branch of a
state that branches 4 bytes more. A set of characters that are not all below 128 takes several
states, of which equal ones are shared as far as a table remembers them. The table has a limited
number of slots, and a state is forgotten when another one falls into its slot.
-/

namespace Earley.Regex

/-- The most bytes that an automaton can take. -/
def memoryLimit : Nat :=
  10 <<< 20

/-- The direction in which an automaton reads. -/
inductive Direction where
  | forward
  | backward
deriving DecidableEq, Repr

/-- What has been laid out of an automaton. -/
structure Footprint where
  states : Nat
  bytes : Nat
  /-- Descriptions of states with their numbers, of which every slot keeps the last. -/
  shared : Array (List Nat × Nat)

namespace Footprint

/-- Nothing, with a table of that many slots. -/
def blank (slots : Nat) : Footprint :=
  ⟨0, 0, Array.replicate slots ([], 0)⟩

/-- Adds states, and bytes besides those that every state takes. Gives `none` beyond the limit. -/
def grow (states bytes : Nat) (f : Footprint) : Option Footprint :=
  let total := f.bytes + 32 * states + bytes
  if memoryLimit < total then none else some ⟨f.states + states, total, f.shared⟩

/-- Does the same a number of times. -/
def times (step : Footprint → Option Footprint) : Nat → Footprint → Option Footprint
  | 0, f => some f
  | count + 1, f =>
    match step f with
    | none => none
    | some f => times step count f

/-- The hash of a description, computed modulo 2^64. -/
def hash (description : List Nat) : UInt64 :=
  description.foldl (fun h n => (h ^^^ n.toUInt64) * 1099511628211) 14695981039346656037

/-- The number of a state with this description: that of a state which its slot remembers, or that
    of a new state, which takes `bytes` besides those that every state takes. -/
def share (description : List Nat) (bytes : Nat) (f : Footprint) : Option (Nat × Footprint) :=
  let ⟨states, total, shared⟩ := f
  let slot := (hash description % shared.size.toUInt64).toNat
  match shared[slot]? with
  | some (known, state) =>
    if known = description then some (state, ⟨states, total, shared⟩)
    else grow 1 bytes ⟨states, total, shared.setIfInBounds slot (description, states)⟩ |>.map
      (states, ·)
  | none => none

/-- The state at which sequences of up to `depth` byte ranges are told apart. Behind all of them
    stands the state `target`. It is described by its transitions, each of them by the first byte,
    the last byte and the next state. -/
def shareEncodings (target : Nat) :
    Nat → List (List ByteRange) → Footprint → Option (Nat × Footprint)
  | 0, _, f => some (target, f)
  | depth + 1, sequences, f => do
    if sequences.head?.any (·.isEmpty) then return (target, f)
    let (transitions, f) ← (sequences.splitBy (·.head? == ·.head?)).foldlM
      (fun (transitions, f) group => do
        let (next, f) ← shareEncodings target depth (group.map (·.tail)) f
        let ends := (group.head?.bind (·.head?)).elim [] fun r => [r.first, r.last]
        return (transitions ++ ends ++ [next], f))
      (([] : List Nat), f)
    share transitions (8 * (transitions.length / 3)) f

/-- Lays out a set of characters. Forward, sequences with the same beginning share states, and so do
    those with the same end. Backward, only those with the same beginning do, so that every sequence
    is a branch of its own. -/
def set (direction : Direction) (chars : CharSet) (f : Footprint) : Option Footprint :=
  if chars.isAscii then f.grow 2 (8 * chars.ranges.length)
  else
    match direction with
    | .forward => do
      let target := f.states
      let f ← f.grow 1 0
      return (← shareEncodings target 4 chars.encodings f).2
    | .backward => do
      let f ← f.grow 2 0
      let target := f.states - 1
      chars.encodings.foldlM (fun f sequence => do
          let (_, f) ← sequence.foldlM
            (fun (next, f) r => share [next, r.first, r.last] 0 f) (target, f)
          f.grow 0 4)
        f

end Footprint

/-- The states and bytes of the tree that tells texts apart by their first byte, then by their
    second byte, and so on. Texts keep their order of preference: behind the end of one text a node
    lists its branches anew. -/
def treeSize : Nat → List (List Nat) → Nat × Nat
  | 0, _ => (0, 0)
  | depth + 1, texts =>
    let ended := texts.takeWhile (·.isEmpty)
    let others := texts.dropWhile (·.isEmpty)
    if others.isEmpty then (0, 0)
    else
      let lists := (others.splitBy (·.isEmpty == ·.isEmpty)).filter fun list =>
        !list.head?.any (·.isEmpty)
      let sizes := lists.flatMap fun list =>
        let firsts := (list.filterMap (·.head?)).eraseDups
        (1, if firsts.length = 1 then 0 else 8 * firsts.length) :: firsts.map fun first =>
          treeSize depth ((list.filter (·.head? = some first)).map (·.tail))
      let ends := Nat.min 1 ended.length + others.countP (·.isEmpty)
      (1 + (sizes.map Prod.fst).sum, 4 * (lists.length + ends) + (sizes.map Prod.snd).sum)

namespace Expr

/-- The text of a text. -/
def text? : Expr → Option (List Char)
  | literal text => some text
  | _ => none

open Footprint in
/-- Lays out a normal form. `earlier` is the number of branches in front of it in the same choice;
    together with the second branch come the states at which a choice begins and ends. -/
def layOut (direction : Direction) : Expr → Nat → Footprint → Option Footprint
  | choice a b, earlier, f =>
    match earlier, (choice a b).branches.mapM text? with
    | 0, some texts => do
      let (states, bytes) := treeSize ((texts.map fun text => (encode text).length).sum + 1)
        (texts.map fun text => match direction with
          | .forward => encode text
          | .backward => (encode text).reverse)
      f.grow (1 + states) bytes
    | _, _ => do
      let f ← joint earlier (← a.layOut direction 0 f)
      b.layOut direction (earlier + 1) f
  | empty, earlier, f => do joint earlier (← f.grow 1 0)
  | literal text, earlier, f => do joint earlier (← f.grow (encode text).length 0)
  | set chars, earlier, f => do joint earlier (← f.set direction chars)
  | anchor _, earlier, f => do joint earlier (← f.grow 1 0)
  | seq a b, earlier, f => do
    let f ←
      match direction with
      | .forward => do b.layOut direction 0 (← a.layOut direction 0 f)
      | .backward => do a.layOut direction 0 (← b.layOut direction 0 f)
    joint earlier f
  | group _ body, earlier, f => do
    let f ←
      match direction with
      | .forward => do (← body.layOut direction 0 (← f.grow 1 0)).grow 1 0
      | .backward => body.layOut direction 0 f
    joint earlier f
  | loop body min max _, earlier, f => do
    let copy := body.layOut direction 0
    let f ←
      match min, max with
      | 0, none => do
        if body.alwaysConsumes then copy (← f.grow 1 8)
        else (← copy f).grow 3 16
      | _, none => do (← times copy min f).grow 1 8
      | 0, some 1 => do (← copy (← f.grow 1 8)).grow 1 0
      | _, some max => do
        let f ← if min = 0 then f.grow 1 0 else times copy min f
        if max = min then pure f
        else
          let f ← f.grow 1 0
          times (fun f => do copy (← f.grow 1 8)) (max - min) f
    joint earlier f
where
  /-- What connects a branch with the branches in front of it. -/
  joint (earlier : Nat) (f : Footprint) : Option Footprint :=
    match earlier with
    | 0 => some f
    | 1 => f.grow 2 8
    | _ => f.grow 0 4

/-- Whether every match begins at the start of the text, as far as the first parts show. -/
def startsAtStart : Expr → Bool
  | anchor condition => condition = .textStart
  | seq a b => a.startsAtStart || (a.consumesNothing && b.startsAtStart)
  | choice a b => a.startsAtStart && b.startsAtStart
  | group _ body => body.startsAtStart
  | loop body min _ _ => 0 < min && body.startsAtStart
  | _ => false

/-- Whether every match ends at the end of the text, as far as the last parts show. -/
def endsAtEnd : Expr → Bool
  | anchor condition => condition = .textEnd
  | seq a b => b.endsAtEnd || (b.consumesNothing && a.endsAtEnd)
  | choice a b => a.endsAtEnd && b.endsAtEnd
  | group _ body => body.endsAtEnd
  | loop body min _ _ => 0 < min && body.endsAtEnd
  | _ => false

/-- Lays out the automaton of a normal form. Unless it is bound to the place where reading begins,
    it first skips bytes. The forward automaton also notes where the whole match begins and ends. -/
def footprint? (direction : Direction) (e : Expr) : Option Footprint := do
  let bound :=
    match direction with
    | .forward => e.startsAtStart
    | .backward => e.endsAtEnd
  let slots :=
    match direction with
    | .forward => 10000
    | .backward => 1000
  let f ← if bound then (Footprint.blank slots).grow 1 0 else (Footprint.blank slots).grow 3 16
  match direction with
  | .forward => do (← e.layOut direction 0 (← f.grow 1 0)).grow 2 0
  | .backward => do (← e.layOut direction 0 f).grow 1 0

/-- Whether both automata of a normal form stay within the limit. The backward one, in which less is
    shared, is laid out first. -/
def fits (e : Expr) : Bool :=
  (e.footprint? .backward).isSome && (e.footprint? .forward).isSome

end Expr

end Earley.Regex
