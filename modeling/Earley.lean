import Earley.Chart.Basic
import Earley.Chart.Column
import Earley.Chart.Dump
import Earley.Chart.Insertion
import Earley.Chart.Item
import Earley.Diagnostic
import Earley.Fault
import Earley.Grammar.Basic
import Earley.Grammar.Builder
import Earley.Grammar.Error
import Earley.Grammar.Rule
import Earley.Grammar.RuleIndex
import Earley.Grammar.Undefined
import Earley.Lexer.Engine
import Earley.Lexer.Error
import Earley.Lexer.Tokenizer
import Earley.Lexer.Word
import Earley.Parser.Basic
import Earley.Parser.Error
import Earley.Parser.Journal
import Earley.Parser.Options
import Earley.Proofs.Chart.Accepting
import Earley.Proofs.Chart.Add
import Earley.Proofs.Chart.Coherence
import Earley.Proofs.Chart.Columns
import Earley.Proofs.Chart.Erasure
import Earley.Proofs.Chart.InPlace
import Earley.Proofs.Chart.Listing
import Earley.Proofs.Chart.Merging
import Earley.Proofs.Chart.Renumbering
import Earley.Proofs.Chart.Tiling
import Earley.Proofs.Chart.Unfold
import Earley.Proofs.Chart.View
import Earley.Proofs.Chart.WellFormed
import Earley.Proofs.Grammar.Building
import Earley.Proofs.Grammar.DeadRules
import Earley.Proofs.Grammar.Derivation
import Earley.Proofs.Grammar.Embedding
import Earley.Proofs.Grammar.Index
import Earley.Proofs.Grammar.Reachability
import Earley.Proofs.Grammar.Undefined
import Earley.Proofs.Grammar.Validity
import Earley.Proofs.Lexer.Engine
import Earley.Proofs.Lexer.PlainPattern
import Earley.Proofs.Lexer.Word
import Earley.Proofs.Numbering
import Earley.Proofs.Parser.DeadRules
import Earley.Proofs.Parser.Distinct
import Earley.Proofs.Parser.Exactness
import Earley.Proofs.Parser.KeepFirst
import Earley.Proofs.Parser.PackedForest
import Earley.Proofs.Parser.Padding
import Earley.Proofs.Parser.Prefixes
import Earley.Proofs.Parser.Results
import Earley.Proofs.Parser.RuleOrder
import Earley.Proofs.Parser.Termination
import Earley.Proofs.Parser.Trees
import Earley.Proofs.Parser.Undefined
import Earley.Proofs.Parser.ValidItems
import Earley.Proofs.Recognition.Accepting
import Earley.Proofs.Recognition.Agenda
import Earley.Proofs.Recognition.Anticipation
import Earley.Proofs.Recognition.ClosedColumns
import Earley.Proofs.Recognition.Closure
import Earley.Proofs.Recognition.Counterparts
import Earley.Proofs.Recognition.DeadRules
import Earley.Proofs.Recognition.Distinct
import Earley.Proofs.Recognition.Erasure
import Earley.Proofs.Recognition.Filled
import Earley.Proofs.Recognition.FirstDerivations
import Earley.Proofs.Recognition.Forest
import Earley.Proofs.Recognition.Invariant
import Earley.Proofs.Recognition.Lineage
import Earley.Proofs.Recognition.Lockstep
import Earley.Proofs.Recognition.Packing
import Earley.Proofs.Recognition.Placement
import Earley.Proofs.Recognition.Plain
import Earley.Proofs.Recognition.Processed
import Earley.Proofs.Recognition.Progress
import Earley.Proofs.Recognition.Recorded
import Earley.Proofs.Recognition.Rest
import Earley.Proofs.Recognition.Sound
import Earley.Proofs.Recognition.Transition
import Earley.Proofs.Recognition.Trees
import Earley.Proofs.Recognition.Truncation
import Earley.Proofs.Recognition.Validity
import Earley.Proofs.Recognition.Yield
import Earley.Proofs.Regex.Matches
import Earley.Proofs.Regex.Places
import Earley.Proofs.Sequence
import Earley.Proofs.Tree.Build
import Earley.Proofs.Tree.Copy
import Earley.Proofs.Tree.Derivation
import Earley.Proofs.Tree.Equality
import Earley.Proofs.Tree.Erasure
import Earley.Proofs.Tree.Forest
import Earley.Proofs.Tree.Measures
import Earley.Proofs.Tree.Recursive
import Earley.Proofs.Tree.Renumbering
import Earley.Proofs.Tree.Text
import Earley.Proofs.Tree.Walk
import Earley.Recognition.Basic
import Earley.Recognition.Run
import Earley.Recognition.Step
import Earley.Recognition.Yield
import Earley.Record
import Earley.Regex.Basic
import Earley.Regex.CharSet
import Earley.Regex.Expr
import Earley.Regex.Footprint
import Earley.Regex.NormalForm
import Earley.Regex.Pattern.Basic
import Earley.Regex.Pattern.Class
import Earley.Regex.Pattern.Error
import Earley.Regex.Pattern.Escape
import Earley.Regex.Pattern.Flags
import Earley.Regex.Pattern.Group
import Earley.Regex.Pattern.Repetition
import Earley.Regex.Program
import Earley.Regex.Reach
import Earley.Regex.Search
import Earley.Regex.Utf8
import Earley.Symbol
import Earley.Text.Quoted
import Earley.Tree.Basic
import Earley.Tree.Build
import Earley.Tree.Copy
import Earley.Tree.Equality
import Earley.Tree.Record
import Earley.Tree.Traversal
import Earley.Tree.Walk
import Earley.Unicode.Alphabetic
import Earley.Unicode.CaseFold
import Earley.Unicode.DecimalDigit
import Earley.Unicode.Escaped
import Earley.Unicode.Numeric
import Earley.Unicode.Ranges
import Earley.Unicode.WhiteSpace
import Earley.Unicode.Word
import Earley.Variable
