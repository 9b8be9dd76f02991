import Earley.Diagnostic

/-!
# Lexer errors
-/

namespace Earley

/-- What a pattern that does not compile was meant for. -/
inductive LexerError where
  /-- It was to separate tokens. -/
  | invalidDelimiter
  /-- It was to describe tokens. -/
  | invalidPattern
deriving DecidableEq, Repr

namespace LexerError

def message : LexerError → String
  | invalidDelimiter => "Invalid delimiter pattern"
  | invalidPattern => "Invalid token pattern"

instance : Diagnostic LexerError where
  message := message
  code
    | invalidDelimiter => "lexer::invalid_delimiter"
    | invalidPattern => "lexer::invalid_pattern"
  help? _ := none

end LexerError

end Earley
