import Earley.Recognition.Yield

/-!
# Steps of a recognition

A step moves one item from the agenda into the chart, or, when the agenda is empty, takes up the
next slot of the column, or goes on to the next column.
-/

namespace Earley.Recognition

variable {T N H Tok : Type} [DecidableEq N] [Terminal T Tok]

/-- What a step leads to. -/
inductive Outcome (N : Type) where
  | running (state : State N)
  /-- The last column is closed. -/
  | closed (chart : Chart)

/-- Whether a slot belongs to the column at `position` and has been taken up. -/
def isProcessed (chart : Chart) (position : Nat) (processed : Option ItemId) (slot : ItemId) :
    Except Fault Bool := do
  let item ← chart.item slot
  return item.stop = position && processed.any (slot ≤ ·)

/-- What an insertion adds to the agenda: an alternative of a slot already taken up is followed. -/
def late (r : Recognition T N H Tok) (chart : Chart) (position : Nat) (processed : Option ItemId)
    (nullable : List (N × ItemId)) (item : Item) (insertion : Insertion) :
    Except Fault (List Item) :=
  match insertion with
  | .merged slot _ => do
    if ← isProcessed chart position processed slot then
      r.followUps position nullable item
    else
      return []
  | _ => return []

/-- One step. -/
def step (r : Recognition T N H Tok) (state : State N) : Except Fault (Outcome N) :=
  match state with
  | ⟨chart, position, cursor, processed, nullable, item :: agenda⟩ =>
    match chart.add item r.policy with
    | .error fault => .error fault
    | .ok (insertion, chart) =>
      match r.late chart position processed nullable item insertion with
      | .error fault => .error fault
      | .ok items => .ok (.running ⟨chart, position, cursor, processed, nullable, items ++ agenda⟩)
  | ⟨chart, position, cursor, _, nullable, []⟩ =>
    match chart.column position with
    | .error fault => .error fault
    | .ok column =>
      match column.slots[cursor]? with
      | some slot =>
        if cursor < r.slotBound position then
          match r.yield chart position nullable slot with
          | .error fault => .error fault
          | .ok (items, nullable) =>
            .ok (.running ⟨chart, position, cursor + 1, some slot, nullable, items⟩)
        else
          .error (.overfull position)
      | none =>
        if position < r.tokens.size then
          .ok (.running ⟨chart, position + 1, 0, none, [], []⟩)
        else
          .ok (.closed chart)

/-- One state leads to another. -/
def Leads (r : Recognition T N H Tok) (s s' : State N) : Prop :=
  r.step s = .ok (.running s')

end Earley.Recognition
