import Earley.Grammar.Undefined
import Earley.Lexer.Tokenizer
import Earley.Parser.Error
import Earley.Parser.Options
import Earley.Recognition.Run
import Earley.Tree.Build

/-!
# Parsers

A parser is a grammar together with options. It keeps nothing from one input to the next.
-/

namespace Earley

/-- A parser for a grammar. -/
structure Parser (T N H : Type) [DecidableEq N] where
  grammar : Grammar T N H
  options : ParserOptions

namespace Parser

variable {T N H Tok : Type} [DecidableEq N]

/-- Makes a parser. A grammar that is to have no undefined nonterminals, but has some, is refused
    with the messages of all of them. -/
def create [Nonterminal N] (grammar : Grammar T N H) (options : ParserOptions) :
    Except ParserError (Parser T N H) :=
  match options.undefined, grammar.undefinedNonterminals with
  | .reject, problem :: problems =>
    .error (.grammarValidationFailed
      (", ".intercalate ((problem :: problems).map GrammarError.message)))
  | _, _ => .ok ⟨grammar, options⟩

/-- The recognition of an input. -/
def recognition (p : Parser T N H) (tokens : Array Tok) : Recognition T N H Tok where
  grammar := p.grammar
  tokens := tokens
  policy := p.options.ambiguity

variable [Terminal T Tok]

/-- The chart of an input. -/
def recognize (p : Parser T N H) (tokens : Array Tok) : Except Fault Chart :=
  (p.recognition tokens).chart

/-- Whether the grammar derives the input. -/
def accepts (p : Parser T N H) (tokens : Array Tok) : Except Fault Bool := do
  let chart ← p.recognize tokens
  return !(← chart.accepting p.grammar).isEmpty

/-- One tree for each derivation of the input that the chart tells apart. -/
def parse (p : Parser T N H) (tokens : Array Tok) : Except Fault (List (Tree T N H)) := do
  let chart ← p.recognize tokens
  Tree.buildAll p.grammar chart

/-- The trees of the tokens of a text. -/
def parseText {R : Type} [RegexEngine R] [Terminal T String] (p : Parser T N H) (z : Tokenizer R)
    (text : String) : Except Fault (List (Tree T N H)) :=
  p.parse (z.tokenize text).toArray

end Parser

end Earley
