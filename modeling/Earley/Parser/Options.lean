import Earley.Chart.Insertion

/-!
# Parser options
-/

namespace Earley

/-- How to treat productions that name a nonterminal without rules. -/
inductive UndefinedPolicy where
  /-- Accept them: such a production is never finished. -/
  | ignore
  /-- Refuse the grammar. -/
  | reject
deriving DecidableEq, Repr

/-- What can be chosen when a parser is made. -/
structure ParserOptions where
  ambiguity : AmbiguityPolicy := .merge
  undefined : UndefinedPolicy := .ignore
deriving DecidableEq, Repr

end Earley
