import Earley.Grammar.Rule

/-!
# The rules of each nonterminal

Prediction asks for all rules of a nonterminal at once, so a grammar keeps them together. The index
is filled rule by rule, and each nonterminal keeps its rules in the order of their ids.
-/

namespace Earley

/-- For each nonterminal that heads a rule, the ids of its rules. -/
abbrev RuleIndex (N : Type) := List (N × List RuleId)

namespace RuleIndex

variable {N : Type} [DecidableEq N]

/-- Adds a rule of `head` after its other rules. -/
def insert (head : N) (id : RuleId) : RuleIndex N → RuleIndex N
  | [] => [(head, [id])]
  | (other, ids) :: rest =>
    if other = head then (other, ids ++ [id]) :: rest else (other, ids) :: insert head id rest

/-- The ids of the rules of `head`, or `none` where it has no rule. -/
def find? (head : N) : RuleIndex N → Option (List RuleId)
  | [] => none
  | (other, ids) :: rest => if other = head then some ids else find? head rest

/-- The index of rules with these heads, numbered from `next` on. -/
def addAll (index : RuleIndex N) (next : RuleId) : List N → RuleIndex N
  | [] => index
  | head :: heads => addAll (index.insert head next) (next + 1) heads

/-- The index of a table of rules. -/
def ofRules {T H : Type} (rules : Array (Rule T N H)) : RuleIndex N :=
  addAll [] 0 (rules.toList.map Rule.head)

end RuleIndex

end Earley
