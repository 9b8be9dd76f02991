import Earley.Grammar.RuleIndex

/-!
# Grammars

A context-free grammar is a table of rules with a start symbol. The order of the rules decides in
which order alternatives are predicted, and so the order of the trees of an ambiguous input.
-/

namespace Earley

/-- A context-free grammar. The index agrees with the table of rules, and the start symbol heads a
    rule. -/
structure Grammar (T N H : Type) [DecidableEq N] where
  rules : Array (Rule T N H)
  start : N
  index : RuleIndex N
  index_eq : index = RuleIndex.ofRules rules
  start_defined : (index.find? start).isSome

namespace Grammar

variable {T N H : Type} [DecidableEq N]

/-- The ids of all rules of `head`, in ascending order. -/
def rulesFor (g : Grammar T N H) (head : N) : List RuleId :=
  (g.index.find? head).getD []

/-- Whether `head` heads a rule. -/
def defines (g : Grammar T N H) (head : N) : Bool :=
  (g.index.find? head).isSome

/-- The nonterminals that head a rule, in the order of their first rules. -/
def nonterminals (g : Grammar T N H) : List N :=
  g.index.map Prod.fst

/-- The ids of the rules of the start symbol. -/
def startRules (g : Grammar T N H) : List RuleId :=
  g.rulesFor g.start

/-- Whether the start symbol heads the rule. -/
def IsStartRule (g : Grammar T N H) (rule : Rule T N H) : Prop :=
  rule.head = g.start

instance (g : Grammar T N H) (rule : Rule T N H) : Decidable (g.IsStartRule rule) :=
  inferInstanceAs (Decidable (rule.head = g.start))

/-- The number of places at which a dot can stand in a production of the grammar. -/
def dottedRules (g : Grammar T N H) : Nat :=
  (g.rules.toList.map (·.length + 1)).foldl (· + ·) 0

end Grammar

end Earley
