import Earley.Regex.Program

/-!
# Searching a text

A search finds the match that begins first, and of several with the same beginning the one that is
preferred. It goes through the text once, with a list of threads in order of preference. A thread
reaches each instruction at most once at a place, and the thread of highest preference is the one
that counts; when a thread accepts, those of lower preference are dropped. Marks tell which
instructions have been reached: each instruction keeps the number of the last round that reached it,
so that a new round begins with no mark of its own.
-/

namespace Earley.Regex

/-- A match under way: where it began, and the instruction it has come to. -/
structure Thread where
  start : Nat
  address : Address
deriving DecidableEq, Repr

/-- Marking an instruction with a round leaves one instruction less that is not marked with it. -/
theorem countP_set_round {marks : Array Nat} {i round : Nat} (h : i < marks.size)
    (hother : marks[i] ≠ round) :
    (marks.set i round h).countP (· ≠ round) + 1 = marks.countP (· ≠ round) := by
  have hpos : 0 < marks.countP (· ≠ round) :=
    Array.countP_pos_iff.2 ⟨marks[i], Array.getElem_mem h, by simpa using hother⟩
  rw [Array.countP_set]
  have hleft : decide (marks[i] ≠ round) = true := by simpa using hother
  have hright : decide (round ≠ round) = false := by simp
  simp only [hleft, hright, if_true, Bool.false_eq_true, if_false]
  omega

/-- Follows a thread, given by the addresses still to be tried in order of preference, to the
    instructions at which it waits for a character or accepts. An instruction marked with this round
    has been reached before. The threads found are put in front of `found`, the latest first. -/
def follow (program : Code) (text : Array Char) (place start round : Nat)
    (addresses : List Address) (marks : Array Nat) (found : List Thread) :
    Array Nat × List Thread :=
  match addresses with
  | [] => (marks, found)
  | address :: addresses =>
    if h : address < marks.size then
      if hmark : marks[address] = round then
        follow program text place start round addresses marks found
      else
        let marks' := marks.set address round h
        match program[address]? with
        | some (.goto next) =>
          follow program text place start round (next :: addresses) marks' found
        | some (.fork first second) =>
          follow program text place start round (first :: second :: addresses) marks' found
        | some (.require condition next) =>
          if condition.holds text place then
            follow program text place start round (next :: addresses) marks' found
          else
            follow program text place start round addresses marks' found
        | some (.consume _ _) =>
          follow program text place start round addresses marks' (⟨start, address⟩ :: found)
        | some .accept =>
          follow program text place start round addresses marks' (⟨start, address⟩ :: found)
        | none => follow program text place start round addresses marks' found
    else
      follow program text place start round addresses marks found
termination_by 2 * marks.countP (· ≠ round) + addresses.length
decreasing_by
  · simp
  all_goals try
    have := countP_set_round h hmark
    simp only [List.length_cons]
    omega
  · simp

/-- Follows all threads to where they wait or accept, in order of preference. -/
def followAll (program : Code) (text : Array Char) (place round : Nat) (marks : Array Nat)
    (threads : List Thread) : Array Nat × List Thread :=
  let (marks, found) := threads.foldl
    (fun (marks, found) thread =>
      follow program text place thread.start round [thread.address] marks found)
    (marks, [])
  (marks, found.reverse)

/-- Lets the threads take the character at a place. The first thread that accepts ends the others
    behind it, and its match is the best so far. `moved` are the threads that have gone on, the
    latest first. -/
def advance (program : Code) (text : Array Char) (place : Nat) (best : Option (Nat × Nat))
    (moved : List Thread) : List Thread → List Thread × Option (Nat × Nat)
  | [] => (moved.reverse, best)
  | thread :: threads =>
    match program[thread.address]? with
    | some .accept => (moved.reverse, some (thread.start, place))
    | some (.consume chars next) =>
      if text[place]?.any chars.contains then
        advance program text place best (⟨thread.start, next⟩ :: moved) threads
      else advance program text place best moved threads
    | _ => advance program text place best moved threads

/-- Goes on with a search at a place. As long as there is no match, one may begin there. Every place
    is a round of its own. -/
def searchOn (program : Code) (text : Array Char) (place : Nat) (marks : Array Nat)
    (threads : List Thread) (best : Option (Nat × Nat)) : Option (Nat × Nat) :=
  let threads := if best.isNone then threads ++ [⟨place, 0⟩] else threads
  let (marks, threads) := followAll program text place (place + 1) marks threads
  let (threads, best) := advance program text place best [] threads
  if place < text.size then
    if threads.isEmpty && best.isSome then best
    else searchOn program text (place + 1) marks threads best
  else best
termination_by text.size - place

/-- The first match that begins at `place` or later, given by its beginning and its end. -/
def search (program : Code) (text : Array Char) (place : Nat) :
    Option (Nat × Nat) :=
  if place ≤ text.size then
    searchOn program text place (Array.replicate program.size 0) [] none
  else none

/-- The first match from a place on that is not empty at the end of the match before it. -/
def nextMatch (program : Code) (text : Array Char) (place : Nat)
    (lastEnd : Option Nat) : Option (Nat × Nat) :=
  match search program text place with
  | none => none
  | some (start, stop) =>
    if start = stop ∧ lastEnd = some stop then search program text (place + 1)
    else some (start, stop)

/-- At most `budget` successive matches from a place on. -/
def matchesFrom (program : Code) (text : Array Char) (place : Nat)
    (lastEnd : Option Nat) : Nat → List (Nat × Nat)
  | 0 => []
  | budget + 1 =>
    match nextMatch program text place lastEnd with
    | none => []
    | some (start, stop) =>
      (start, stop) :: matchesFrom program text stop (some stop) budget

/-- All successive matches. Each ends later than the one before it, so there are no more of them
    than places. -/
def allMatches (program : Code) (text : Array Char) : List (Nat × Nat) :=
  matchesFrom program text 0 none (text.size + 1)

/-- The pieces of a text from `place` on, between the given matches. -/
def pieces (text : Array Char) (place : Nat) : List (Nat × Nat) → List String
  | [] => [String.ofList (text.extract place text.size).toList]
  | (start, stop) :: rest =>
    String.ofList (text.extract place start).toList :: pieces text stop rest

end Earley.Regex
