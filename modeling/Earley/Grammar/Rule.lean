import Earley.Symbol

/-!
# Rules

A rule pairs a nonterminal, its head, with a production. Hooks are handed on to the tree nodes that
are built from the rule and mean nothing to the parser.
-/

namespace Earley

/-- The position of a rule in its grammar. -/
abbrev RuleId := Nat

/-- The text of a rule id. -/
def RuleId.text (id : RuleId) : String :=
  s!"r{id}"

/-- A rule of a grammar. -/
structure Rule (T N H : Type) where
  head : N
  production : List (Symbol T N)
  enter : Option H
  exit : Option H
deriving DecidableEq, Repr

namespace Rule

variable {T N H : Type}

def length (rule : Rule T N H) : Nat :=
  rule.production.length

def isEmpty (rule : Rule T N H) : Bool :=
  rule.production.isEmpty

/-- The symbol that a dot in front of position `dot` stands before. -/
def symbol? (rule : Rule T N H) (dot : Nat) : Option (Symbol T N) :=
  rule.production[dot]?

/-- The nonterminals of the production, from left to right. -/
def nonterminals (rule : Rule T N H) : List N :=
  rule.production.filterMap Symbol.nonterminal?

end Rule

end Earley
