import Earley.Recognition.Basic

/-!
# What a slot yields

A slot whose next symbol is a nonterminal predicts the rules of that nonterminal and steps over the
derivations of it that are empty. One whose next symbol is a terminal steps over the next token if
the terminal admits it. A finished slot completes the items of its origin column that wait for it.
-/

namespace Earley

namespace Item

/-- The item with its dot moved over a token. -/
def scan (item : Item) : Item :=
  { item with dot := item.dot + 1, stop := item.stop + 1 }

/-- The item with its dot moved over a nonterminal, of which `child`, ending at `position`, is a
    derivation. -/
def advance (item : Item) (position : Nat) (child : ItemId) : Item :=
  { item with
    dot := item.dot + 1
    stop := position
    backpointers := item.backpointers ++ [child] }

/-- A rule of which nothing has been recognized yet. -/
def predicted (rule : RuleId) (position : Nat) : Item :=
  ⟨rule, 0, position, position, []⟩

end Item

namespace Chart

variable {T N H : Type} [DecidableEq N]

/-- The slots of a column, from the first to the last, that wait for the nonterminal `head`. -/
def waitingSlots (chart : Chart) (g : Grammar T N H) (position : Nat) (head : N) :
    Except Fault (List ItemId) := do
  let column ← chart.column position
  column.slots.toList.filterM fun slot => do
    let item ← chart.item slot
    let next ← item.next? g
    return next.bind Symbol.nonterminal? = some head

/-- The items of these slots and of their alternatives. -/
def waiting (chart : Chart) (g : Grammar T N H) (position : Nat) (head : N) :
    Except Fault (List Item) := do
  let slots ← chart.waitingSlots g position head
  return (← slots.mapM chart.derivationItems).flatten

end Chart

namespace Recognition

variable {T N H Tok : Type} [DecidableEq N]

/-- The empty derivations of `head` found so far. -/
def emptyDerivations (nullable : List (N × ItemId)) (head : N) : List ItemId :=
  (nullable.filter (·.1 = head)).map (·.2)

/-- Moves the dot of a derivation over each empty derivation of the nonterminal after it. -/
def stepOver (position : Nat) (nullable : List (N × ItemId)) (head : N) (item : Item) :
    List Item :=
  (emptyDerivations nullable head).map (item.advance position)

/-- Whether the terminal admits the token at a position. Past the last token there is none. -/
def admitsAt [Terminal T Tok] (r : Recognition T N H Tok) (position : Nat) (t : T) : Bool :=
  match r.tokens[position]? with
  | some token => Terminal.admits t token
  | none => false

/-- The items that a late alternative yields. Its slot has been taken up already, so the rules of
    the next nonterminal have been predicted. -/
def followUps [Terminal T Tok] (r : Recognition T N H Tok) (position : Nat)
    (nullable : List (N × ItemId)) (item : Item) : Except Fault (List Item) := do
  match ← item.next? r.grammar with
  | some (.nonterminal head) => return stepOver position nullable head item
  | some (.terminal t) => return if r.admitsAt position t then [item.scan] else []
  | none => return []

/-- The items that a slot yields when it is taken up, and the empty derivations known from then
    on. -/
def yield [Terminal T Tok] (r : Recognition T N H Tok) (chart : Chart) (position : Nat)
    (nullable : List (N × ItemId)) (slot : ItemId) :
    Except Fault (List Item × List (N × ItemId)) := do
  let item ← chart.item slot
  let rule ← r.grammar.rule item.rule
  match rule.symbol? item.dot with
  | some (.nonterminal head) =>
    let derivations ← chart.derivationItems slot
    let predictions := (r.grammar.rulesFor head).map (Item.predicted · position)
    return (predictions ++ derivations.flatMap (stepOver position nullable head), nullable)
  | some (.terminal t) =>
    let derivations ← chart.derivationItems slot
    return (if r.admitsAt position t then derivations.map Item.scan else [], nullable)
  | none =>
    let nullable := if item.origin = position then nullable ++ [(rule.head, slot)] else nullable
    let parents ← chart.waiting r.grammar item.origin rule.head
    return (parents.map (·.advance position slot), nullable)

end Recognition

end Earley
