import Earley.Chart.Dump
import Earley.Parser.Basic

/-!
# The journal of a parse

What a parser tells about its work: column by column what was closed and which predictions came to
nothing, then the size of the chart and the chart itself, and last the number of trees. All of this
can be read off the finished chart, because a closed column keeps its slots and their order.
-/

namespace Earley

/-- How much weight an event has. -/
inductive Severity where
  | error
  | warn
  | info
  | debug
  | trace
deriving DecidableEq, Repr

/-- The position in the order from the gravest to the slightest. -/
def Severity.rank : Severity → Nat
  | error => 1
  | warn => 2
  | info => 3
  | debug => 4
  | trace => 5

/-- The activity that an event belongs to. -/
inductive Activity where
  | recognition
  | parsing
deriving DecidableEq, Repr

/-- Something that happens during a parse. -/
inductive Event where
  /-- A slot of the variable named `head` predicts a nonterminal that heads no rule. -/
  | vainPrediction (head nonterminal : String)
  /-- A column has got all its slots. -/
  | columnClosed (position slots : Nat)
  /-- All columns are closed. -/
  | recognized (tokens : Nat) (stats : ChartStats)
  | chartDumped (dump : String)
  /-- The trees are built. -/
  | parsed (derivations tokens : Nat)
deriving DecidableEq, Repr

namespace Event

def severity : Event → Severity
  | vainPrediction _ _ => .trace
  | columnClosed _ _ => .trace
  | recognized _ _ => .debug
  | chartDumped _ => .trace
  | parsed _ _ => .debug

def activity : Event → Activity
  | parsed _ _ => .parsing
  | _ => .recognition

/-- The message of an event of a recognition that took `elapsed`. -/
def message (elapsed : String) : Event → String
  | vainPrediction head nonterminal =>
    s!"item for {head} predicts undefined nonterminal {nonterminal}"
  | columnClosed position slots => s!"column {position} closed with {slots} items"
  | recognized tokens stats =>
    let ⟨_, slots, alternatives, items⟩ := stats
    s!"recognized {tokens} tokens in {elapsed}: {items} items " ++
      s!"({slots} slots, {alternatives} alternatives)"
  | chartDumped dump => s!"chart:\n{dump}"
  | parsed derivations tokens => s!"{derivations} derivations for {tokens} tokens"

/-- Whether the event is heard where `threshold` is the slightest severity that is. Without a
    threshold nothing is heard. -/
def isHeard (event : Event) (threshold : Option Severity) : Bool :=
  threshold.any (event.severity.rank ≤ ·.rank)

end Event

namespace Chart

variable {T N H : Type} [DecidableEq N] [Nonterminal N]

/-- The event of a slot whose next symbol is a nonterminal without rules. -/
def vainPrediction? (chart : Chart) (g : Grammar T N H) (slot : ItemId) :
    Except Fault (Option Event) := do
  let item ← chart.item slot
  let rule ← g.rule item.rule
  match rule.symbol? item.dot with
  | some (.nonterminal n) =>
    if g.defines n then
      return none
    else
      return some (.vainPrediction (Nonterminal.name rule.head) (Nonterminal.name n))
  | _ => return none

/-- The events of closing a column. -/
def columnEvents (chart : Chart) (g : Grammar T N H) (column : Column) (position : Nat) :
    Except Fault (List Event) := do
  let predictions ← column.slots.toList.mapM (chart.vainPrediction? g)
  return predictions.filterMap id ++ [.columnClosed position column.slots.size]

/-- The events of filling a chart. -/
def events [Printable T] (chart : Chart) (g : Grammar T N H) : Except Fault (List Event) := do
  let columns ← chart.columns.toList.zipIdx.mapM fun (column, position) =>
    chart.columnEvents g column position
  let dump ← chart.dump g
  return columns.flatten ++ [.recognized chart.inputLength chart.stats, .chartDumped dump]

end Chart

namespace Parser

variable {T N H Tok : Type} [DecidableEq N] [Nonterminal N] [Printable T] [Terminal T Tok]

/-- The events of a parse. -/
def journal (p : Parser T N H) (tokens : Array Tok) : Except Fault (List Event) := do
  let chart ← p.recognize tokens
  let events ← chart.events p.grammar
  let trees ← Tree.buildAll p.grammar chart
  return events ++ [.parsed trees.length tokens.size]

end Parser

end Earley
