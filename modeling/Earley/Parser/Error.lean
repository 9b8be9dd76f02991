import Earley.Diagnostic

/-!
# Parser errors
-/

namespace Earley

/-- Why a parser could not be made. -/
inductive ParserError where
  /-- The grammar was refused because of these problems. -/
  | grammarValidationFailed (problems : String)
deriving DecidableEq, Repr

namespace ParserError

def message : ParserError → String
  | grammarValidationFailed problems => s!"Grammar validation failed: {problems}"

instance : Diagnostic ParserError where
  message := message
  code _ := "earley::grammar_validation_failed"
  help? _ := some "define the missing nonterminals or use UndefinedNonTerminals::Ignore"

end ParserError

end Earley
