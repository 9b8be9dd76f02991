import Earley.Chart.Column
import Earley.Chart.Insertion

/-!
# Charts

A chart has one column for each position of the input, before, between and after the tokens. The
items of all columns stand in one arena, and columns name them by their ids.
-/

namespace Earley

/-- All items of a parse. -/
structure Chart where
  /-- Every item ever added, slots and alternatives alike. -/
  arena : Array Item
  columns : Array Column

/-- The size of a chart. -/
structure ChartStats where
  columns : Nat
  /-- The number of different keys in all columns. -/
  slots : Nat
  alternatives : Nat
  items : Nat
deriving DecidableEq, Repr

namespace Chart

variable {T N H : Type} [DecidableEq N]

/-- A chart without items for an input of `length` tokens. -/
def empty (length : Nat) : Chart :=
  ⟨#[], Array.replicate (length + 1) Column.empty⟩

/-- The number of tokens that the chart is for. -/
def inputLength (chart : Chart) : Nat :=
  chart.columns.size - 1

/-- The column at a position. -/
def column (chart : Chart) (position : Nat) : Except Fault Column :=
  match chart.columns[position]? with
  | some column => .ok column
  | none => .error (.noColumn position)

theorem column_eq_ok_iff {chart : Chart} {position : Nat} {column : Column} :
    chart.column position = .ok column ↔ chart.columns[position]? = some column := by
  unfold Chart.column
  cases chart.columns[position]? <;> simp

/-- The item of an id. -/
def item (chart : Chart) (id : ItemId) : Except Fault Item :=
  match chart.arena[id]? with
  | some item => .ok item
  | none => .error (.noItem id)

theorem item_eq_ok_iff {chart : Chart} {id : ItemId} {item : Item} :
    chart.item id = .ok item ↔ chart.arena[id]? = some item := by
  unfold Chart.item
  cases chart.arena[id]? <;> simp

/-- The alternatives of a slot. -/
def alternatives (chart : Chart) (slot : ItemId) : Except Fault (List ItemId) := do
  let item ← chart.item slot
  let column ← chart.column item.stop
  return column.alternativesOf slot

/-- A slot and after it its alternatives. -/
def derivations (chart : Chart) (slot : ItemId) : Except Fault (List ItemId) := do
  return slot :: (← chart.alternatives slot)

/-- The items of a slot and of its alternatives. -/
def derivationItems (chart : Chart) (slot : ItemId) : Except Fault (List Item) := do
  (← chart.derivations slot).mapM chart.item

/-- Stores an item and opens a slot for it. -/
def openSlot (chart : Chart) (item : Item) : Chart :=
  let id := chart.arena.size
  { chart with
    arena := chart.arena.push item
    columns := chart.columns.modify item.stop (·.openSlot item.key id) }

/-- Stores an item as an alternative of a slot. -/
def addAlternative (chart : Chart) (slot : ItemId) (item : Item) : Chart :=
  let id := chart.arena.size
  { chart with
    arena := chart.arena.push item
    columns := chart.columns.modify item.stop (·.addAlternative slot id) }

/-- Adds an item to the column in which it ends. The policy matters where the column already has the
    item's key, but with other backpointers. -/
def add (chart : Chart) (item : Item) (policy : AmbiguityPolicy) :
    Except Fault (Insertion × Chart) :=
  match chart.columns[item.stop]? with
  | none => .error (.noColumn item.stop)
  | some column =>
    match column.find? item.key with
    | none => .ok (.added chart.arena.size, chart.openSlot item)
    | some slot =>
      match chart.derivationItems slot with
      | .error fault => .error fault
      | .ok derivations =>
        if derivations.any (·.backpointers = item.backpointers) then
          .ok (.duplicate slot, chart)
        else
          match policy with
          | .keepFirst => .ok (.dropped slot, chart)
          | .merge => .ok (.merged slot chart.arena.size, chart.addAlternative slot item)

/-- Whether an item is finished, spans the input from its beginning, and belongs to a start rule. -/
def accepts (g : Grammar T N H) (item : Item) : Except Fault Bool := do
  if item.origin = 0 then
    let rule ← g.rule item.rule
    return g.IsStartRule rule && rule.length ≤ item.dot
  else
    return false

/-- The derivations of the whole input from the start symbol: the accepting slots of the last
    column in their order, each followed by its alternatives. -/
def accepting (chart : Chart) (g : Grammar T N H) : Except Fault (List ItemId) := do
  let last ← chart.column chart.inputLength
  let slots ← last.slots.toList.filterM fun slot => do accepts g (← chart.item slot)
  return (← slots.mapM chart.derivations).flatten

/-- How many columns, slots, alternatives and items the chart has. -/
def stats (chart : Chart) : ChartStats where
  columns := chart.columns.size
  slots := (chart.columns.toList.map (·.slots.size)).foldl (· + ·) 0
  alternatives := (chart.columns.toList.map Column.alternativeCount).foldl (· + ·) 0
  items := chart.arena.size

end Chart

end Earley
