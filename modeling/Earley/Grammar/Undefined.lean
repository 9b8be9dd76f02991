import Earley.Grammar.Basic
import Earley.Grammar.Error

/-!
# Undefined nonterminals

A production may name a nonterminal that heads no rule. Such a symbol is never completed, because
its prediction adds nothing.
-/

namespace Earley.Grammar

variable {T N H : Type} [DecidableEq N]

/-- Each pair of a rule's head and an undefined nonterminal of its production, once, in the order in
    which the pairs first occur. -/
def undefinedReferences (g : Grammar T N H) : List (N × N) :=
  (g.rules.toList.flatMap fun rule =>
    (rule.nonterminals.filter (!g.defines ·)).map (rule.head, ·)).eraseDups

/-- One error for each undefined reference. -/
def undefinedNonterminals [Nonterminal N] (g : Grammar T N H) : List GrammarError :=
  g.undefinedReferences.map fun (head, symbol) =>
    .undefinedNonterminal (Nonterminal.name head) (Nonterminal.name symbol)

end Earley.Grammar
