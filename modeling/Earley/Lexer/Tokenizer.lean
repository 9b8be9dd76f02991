import Earley.Lexer.Engine
import Earley.Lexer.Error

/-!
# Tokenizers

A tokenizer cuts a text into tokens wherever a delimiter matches. The pieces between two delimiters
are kept even where they are empty, so a text always has at least one token.
-/

namespace Earley

/-- Cuts texts at a delimiter. -/
structure Tokenizer (R : Type := Regex) where
  delimiter : R

namespace Tokenizer

variable {R : Type} [RegexEngine R]

/-- The tokenizer of a delimiter pattern. -/
def ofPattern (pattern : String) : Except LexerError (Tokenizer R) :=
  match RegexEngine.compile? pattern with
  | none => .error .invalidDelimiter
  | some delimiter => .ok ⟨delimiter⟩

/-- The delimiter as it was written. -/
def pattern (z : Tokenizer R) : String :=
  RegexEngine.pattern z.delimiter

/-- The tokens of a text. -/
def tokenize (z : Tokenizer R) (text : String) : List String :=
  RegexEngine.split z.delimiter text

end Tokenizer

end Earley
