import Earley.Diagnostic

/-!
# Grammar errors
-/

namespace Earley

/-- What can be wrong with a grammar. -/
inductive GrammarError where
  /-- No start symbol was given. -/
  | missingEntryPoint
  /-- The start symbol of this name heads no rule. -/
  | noStartRule (start : String)
  /-- A production of the variable named `head` holds a nonterminal that heads no rule. -/
  | undefinedNonterminal (head symbol : String)
  /-- There are more rules than a rule id of 32 bits can tell apart. -/
  | tooManyRules (count : Nat)
deriving DecidableEq, Repr

namespace GrammarError

def message : GrammarError → String
  | missingEntryPoint => "Missing entry point"
  | noStartRule start => s!"No rule defines the start symbol `{start}`"
  | undefinedNonterminal head symbol =>
    s!"Rule for `{head}` references undefined nonterminal `{symbol}`"
  | tooManyRules count => s!"Grammar has {count} rules, more than a rule id can address"

instance : Diagnostic GrammarError where
  message := message
  code
    | missingEntryPoint => "grammar::missing_entry_point"
    | noStartRule _ => "grammar::no_start_rule"
    | undefinedNonterminal _ _ => "grammar::undefined_nonterminal"
    | tooManyRules _ => "grammar::too_many_rules"
  help?
    | noStartRule _ => some "add at least one rule whose left-hand side is the entry point"
    | _ => none

end GrammarError

end Earley
