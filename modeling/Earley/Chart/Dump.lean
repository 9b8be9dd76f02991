import Earley.Chart.Basic

/-!
# Chart dumps

A chart is printed column by column with one item on a line. An alternative stands below its slot,
behind a bar.
-/

namespace Earley.Chart

variable {T N H : Type} [DecidableEq N] [Printable T] [Nonterminal N]

/-- The symbols of a production, with `$` where the dot stands. A dot beyond the end stands at the
    end. -/
def dotted (production : List (Symbol T N)) (dot : Nat) : List String :=
  (production.take dot).map Symbol.quoted ++ "$" :: (production.drop dot).map Symbol.quoted

/-- The line of an item, without its end: the id, the head of the rule, the production with the
    dot, the tokens covered, and the backpointers. -/
def itemLine (chart : Chart) (g : Grammar T N H) (id : ItemId) : Except Fault String := do
  let item ← chart.item id
  let rule ← g.rule item.rule
  let head := Nonterminal.name rule.head
  let body := String.join ((dotted rule.production item.dot).map (" " ++ ·))
  let backpointers := " ".intercalate (item.backpointers.map toString)
  return s!"{id}. {head} ->{body} [{item.origin}-{item.stop}] [{backpointers}]"

/-- The lines of a slot and of its alternatives. -/
def slotText (chart : Chart) (g : Grammar T N H) (column : Column) (slot : ItemId) :
    Except Fault String := do
  let line ← chart.itemLine g slot
  let others ← (column.alternativesOf slot).mapM (chart.itemLine g)
  return line ++ "\n" ++ String.join (others.map ("  | " ++ · ++ "\n"))

/-- The lines of the column at a position. -/
def columnText (chart : Chart) (g : Grammar T N H) (column : Column) (position : Nat) :
    Except Fault String := do
  let slots ← column.slots.toList.mapM (chart.slotText g column)
  return s!"== column {position} ==\n" ++ String.join slots

/-- The text of the whole chart. -/
def dump (chart : Chart) (g : Grammar T N H) : Except Fault String := do
  let columns ← chart.columns.toList.zipIdx.mapM fun (column, position) =>
    chart.columnText g column position
  return String.join columns

end Earley.Chart
