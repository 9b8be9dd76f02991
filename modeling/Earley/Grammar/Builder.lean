import Earley.Grammar.Basic
import Earley.Grammar.Error

/-!
# Building grammars

Rules are added one after another and keep their order. Of several entry points the last one counts.
-/

namespace Earley

/-- A grammar under construction. -/
structure GrammarBuilder (T N H : Type) where
  rules : Array (Rule T N H)
  entry? : Option N

namespace GrammarBuilder

variable {T N H : Type}

/-- No rules and no entry point. -/
def empty : GrammarBuilder T N H :=
  ⟨#[], none⟩

/-- Makes `start` the start symbol. -/
def entryPoint (b : GrammarBuilder T N H) (start : N) : GrammarBuilder T N H :=
  { b with entry? := some start }

/-- Adds a rule whose nodes carry the given hooks. -/
def ruleWithHooks (b : GrammarBuilder T N H) (head : N) (production : List (Symbol T N))
    (enter exit : Option H) : GrammarBuilder T N H :=
  { b with rules := b.rules.push ⟨head, production, enter, exit⟩ }

/-- Adds a rule without hooks. -/
def rule (b : GrammarBuilder T N H) (head : N) (production : List (Symbol T N)) :
    GrammarBuilder T N H :=
  b.ruleWithHooks head production none none

/-- The number of rules that ids of 32 bits can tell apart. -/
def maxRules : Nat :=
  UInt32.size

/-- The grammar of the collected rules. A missing entry point is reported before the number of
    rules, and that before a start symbol without rules. -/
def build [DecidableEq N] [Nonterminal N] (b : GrammarBuilder T N H) :
    Except GrammarError (Grammar T N H) :=
  match b.entry? with
  | none => .error .missingEntryPoint
  | some start =>
    if b.rules.size < maxRules then
      let index := RuleIndex.ofRules b.rules
      if h : (index.find? start).isSome then
        .ok ⟨b.rules, start, index, rfl, h⟩
      else
        .error (.noStartRule (Nonterminal.name start))
    else
      .error (.tooManyRules b.rules.size)

end GrammarBuilder

end Earley
