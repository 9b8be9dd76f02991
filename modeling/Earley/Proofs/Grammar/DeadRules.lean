import Earley.Grammar.Builder
import Earley.Proofs.Grammar.Embedding
import Earley.Proofs.Grammar.Index
import Earley.Proofs.Numbering

/-!
# Dead rules

A rule is dead when its production names a nonterminal that heads no rule. Nothing can be derived from such
a production, so a grammar derives from its symbols what it derives without its dead rules. Other rules may
become dead when these are left out; they stay, and nothing is derived from them in either grammar.
-/

namespace Earley.Grammar

variable {T N H : Type} [DecidableEq N] {g g' : Grammar T N H}

/-- Whether each nonterminal of the production heads a rule. -/
def isLive (g : Grammar T N H) (rule : Rule T N H) : Bool :=
  rule.nonterminals.all g.defines

/-- The rules that are not dead, in the order of the table. -/
def liveRules (g : Grammar T N H) : Array (Rule T N H) :=
  g.rules.filter g.isLive

/-- The grammar without its dead rules. There is none where the start symbol is left without a rule. -/
def pruned? (g : Grammar T N H) : Option (Grammar T N H) :=
  let index := RuleIndex.ofRules g.liveRules
  if h : (index.find? g.start).isSome then
    some ⟨g.liveRules, g.start, index, rfl, h⟩
  else
    none

/-- The other grammar has the same start symbol, and of the rules those that are not dead. -/
structure PrunesTo (g g' : Grammar T N H) : Prop where
  start_eq : g'.start = g.start
  rules_eq : g'.rules = g.liveRules

theorem mem_liveRules_iff {rule : Rule T N H} :
    rule ∈ g.liveRules ↔ rule ∈ g.rules ∧ g.isLive rule = true :=
  Array.mem_filter

theorem isLive_iff {rule : Rule T N H} :
    g.isLive rule = true ↔ ∀ n, .nonterminal n ∈ rule.production → g.defines n = true := by
  unfold isLive Rule.nonterminals
  rw [List.all_eq_true]
  constructor
  · intro h n hn
    exact h n (List.mem_filterMap.2 ⟨_, hn, rfl⟩)
  · intro h n hn
    obtain ⟨symbol, hsymbol, hname⟩ := List.mem_filterMap.1 hn
    cases symbol with
    | terminal t => cases hname
    | nonterminal m =>
      cases hname
      exact h n hsymbol

theorem pruned?_eq_some_iff : g.pruned? = some g' ↔ g.PrunesTo g' := by
  unfold pruned?
  dsimp only
  constructor
  · intro h
    split_ifs at h with hstart
    cases h
    exact ⟨rfl, rfl⟩
  · intro h
    obtain ⟨rules, start, index, rfl, hdefined⟩ := g'
    obtain ⟨rfl, rfl⟩ := h
    rw [dif_pos hdefined]

theorem pruned?_eq_none_iff : g.pruned? = none ↔ ∀ rule ∈ g.liveRules, rule.head ≠ g.start := by
  unfold pruned?
  dsimp only
  split_ifs with hstart
  · obtain ⟨rule, hrule, hhead⟩ := RuleIndex.isSome_find?_ofRules_iff.1 hstart
    exact iff_of_false (by simp) fun h => h rule hrule hhead
  · refine iff_of_true rfl fun rule hrule hhead => hstart ?_
    exact RuleIndex.isSome_find?_ofRules_iff.2 ⟨rule, hrule, hhead⟩

/-- Building a grammar from the rules that are not dead gives the grammar without its dead rules, or fails
    for want of a start rule. -/
theorem build_liveRules [Nonterminal N] (hsize : g.liveRules.size < GrammarBuilder.maxRules) :
    (GrammarBuilder.mk g.liveRules (some g.start)).build =
      match g.pruned? with
      | some g' => .ok g'
      | none => .error (.noStartRule (Nonterminal.name g.start)) := by
  unfold GrammarBuilder.build pruned?
  simp only [hsize, ↓reduceIte]
  split_ifs <;> rfl

/-- The grammar without the dead rules is embedded in the whole one, which has no further live rules. -/
theorem PrunesTo.exists_embedsIn (hprunes : g.PrunesTo g') :
    ∃ renumber : RuleId → RuleId, g'.EmbedsIn g renumber ∧
      ∀ {id rule}, g.rules[id]? = some rule → rule ∈ g'.rules → ∃ old, renumber old = id := by
  obtain ⟨renumber, hmono, hrules, hlive⟩ := exists_standsIn_filter g.isLive g.rules.toList
  rw [← Array.toList_filter] at hrules
  simp only [Array.getElem?_toList] at hrules hlive
  refine ⟨renumber, ⟨hprunes.start_eq.symm, hmono.injective, fun id => ?_⟩, ?_⟩
  · rw [hprunes.rules_eq]
    exact hrules id
  · intro id rule hrule hkept
    rw [hprunes.rules_eq] at hkept
    exact hlive hrule (mem_liveRules_iff.1 hkept).2

section Spells

variable {Tok : Type} [Terminal T Tok] {tokens : Array Tok} {symbols : List (Symbol T N)} {i k : Nat}
  {trees : List (RuleTree T)}

/-- Only nonterminals that head a rule are spelled out. -/
theorem Spells.defines (h : g.Spells tokens symbols i k trees) {n : N}
    (hn : .nonterminal n ∈ symbols) : g.defines n = true := by
  induction h with
  | nil => cases hn
  | terminal _ _ ih =>
    cases hn with
    | tail _ hn => exact ih hn
  | nonterminal hrule hhead _ _ _ ih =>
    cases hn with
    | head => exact g.defines_iff.2 ⟨_, Array.mem_of_getElem? hrule, hhead⟩
    | tail _ hn => exact ih hn

/-- A rule whose production is spelled out is not dead. -/
theorem Spells.isLive {rule : Rule T N H} (h : g.Spells tokens rule.production i k trees) :
    g.isLive rule = true :=
  isLive_iff.2 fun _ => h.defines

namespace PrunesTo

variable (hprunes : g.PrunesTo g')
include hprunes

/-- A rule whose production is spelled out is kept. -/
theorem mem_rules {rule : Rule T N H} (hrule : rule ∈ g.rules)
    (h : g.Spells tokens rule.production i k trees) : rule ∈ g'.rules := by
  rw [hprunes.rules_eq]
  exact mem_liveRules_iff.2 ⟨hrule, h.isLive⟩

/-- What is spelled out needs no dead rules. -/
theorem exists_spells (h : g.Spells tokens symbols i k trees) :
    ∃ others, g'.Spells tokens symbols i k others := by
  induction h with
  | nil i => exact ⟨[], .nil i⟩
  | terminal hadmits _ ih =>
    obtain ⟨others, hothers⟩ := ih
    exact ⟨_, .terminal hadmits hothers⟩
  | nonterminal hrule hhead hchildren _ ihchildren ihrest =>
    obtain ⟨below, hbelow⟩ := ihchildren
    obtain ⟨others, hothers⟩ := ihrest
    have hkept := hprunes.mem_rules (Array.mem_of_getElem? hrule) hchildren
    obtain ⟨id, hid⟩ := Array.mem_iff_getElem?.1 hkept
    exact ⟨_, .nonterminal hid hhead hbelow hothers⟩

end PrunesTo

end Spells

end Earley.Grammar
