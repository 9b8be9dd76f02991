import Mathlib.Data.List.Sort
import Earley.Proofs.Grammar.Index
import Earley.Proofs.Numbering

/-!
# Reachable nonterminals

A nonterminal is reachable when productions lead to it from the start symbol, whether it heads a rule or
not. A table of rules is padded when rules of other nonterminals are inserted, at any places. This gives
the old rules new numbers, but in the old order, and adds none to the rules of a reachable nonterminal.
-/

namespace Earley.Grammar

variable {T N H : Type} [DecidableEq N] {g g' : Grammar T N H}

/-- Productions lead from the start symbol to the nonterminal. -/
inductive Reaches (g : Grammar T N H) : N → Prop where
  | start : Reaches g g.start
  | named {rule : Rule T N H} {n : N} (hrule : rule ∈ g.rules) (hhead : Reaches g rule.head)
      (hmem : .nonterminal n ∈ rule.production) : Reaches g n

namespace Reaches

/-- What stands behind the dot of a rule of a reachable nonterminal is reachable. -/
theorem expected {id : RuleId} {rule : Rule T N H} {dot : Nat} {n : N} (h : g.Reaches rule.head)
    (hrule : g.rules[id]? = some rule) (hsymbol : rule.symbol? dot = some (.nonterminal n)) :
    g.Reaches n :=
  .named (Array.mem_of_getElem? hrule) h (List.mem_of_getElem? hsymbol)

/-- Nonterminals among which there is the start symbol, and whose rules name no others, hold all that are
    reachable. -/
theorem mem_of_closed {names : List N} {n : N} (h : g.Reaches n) (hstart : g.start ∈ names)
    (hclosed : ∀ rule ∈ g.rules.toList, rule.head ∈ names → ∀ m ∈ rule.nonterminals, m ∈ names) :
    n ∈ names := by
  induction h with
  | start => exact hstart
  | @named rule m hrule _ hmem ih =>
    have hnamed : m ∈ rule.nonterminals := List.mem_filterMap.2 ⟨_, hmem, rfl⟩
    exact hclosed rule (Array.mem_toList_iff.2 hrule) ih m hnamed

end Reaches

/-- The other table holds these rules in their order, and between them rules of nonterminals that the
    grammar does not reach. -/
inductive Pads (g : Grammar T N H) : List (Rule T N H) → List (Rule T N H) → Prop where
  | nil : Pads g [] []
  | keep (rule : Rule T N H) {rules padded : List (Rule T N H)} (hrest : Pads g rules padded) :
      Pads g (rule :: rules) (rule :: padded)
  | insert {rule : Rule T N H} {rules padded : List (Rule T N H)} (hhead : ¬ g.Reaches rule.head)
      (hrest : Pads g rules padded) : Pads g rules (rule :: padded)

/-- The old rules have new numbers in the old order, and the rules of reachable nonterminals are old. -/
theorem Pads.exists_standsIn {rules padded : List (Rule T N H)} (h : g.Pads rules padded) :
    ∃ renumber, StandsIn (fun rule => g.Reaches rule.head) rules padded renumber := by
  induction h with
  | nil => exact ⟨id, .nil⟩
  | keep rule _ ih =>
    obtain ⟨renumber, hrest⟩ := ih
    exact ⟨_, hrest.keep rule⟩
  | insert hhead _ ih =>
    obtain ⟨renumber, hrest⟩ := ih
    exact ⟨_, hrest.insert hhead⟩

/-- The other grammar has further rules, all of them for nonterminals that the grammar does not reach. -/
structure PadsTo (g g' : Grammar T N H) : Prop where
  start_eq : g'.start = g.start
  rules : g.Pads g.rules.toList g'.rules.toList

/-- A grammar that is padded has the same rules of reachable nonterminals under other numbers. -/
theorem PadsTo.exists_renumber (h : g.PadsTo g') :
    ∃ renumber : RuleId → RuleId, StrictMono renumber ∧
      (∀ id, g'.rules[renumber id]? = g.rules[id]?) ∧
      ∀ n, g.Reaches n → g'.rulesFor n = (g.rulesFor n).map renumber := by
  obtain ⟨renumber, hmono, hrules, hold⟩ := h.rules.exists_standsIn
  simp only [Array.getElem?_toList] at hrules hold
  refine ⟨renumber, hmono, hrules, fun n hreaches => ?_⟩
  have hascend : ((g.rulesFor n).map renumber).Pairwise (· < ·) :=
    (g.rulesFor_ascend n).map renumber fun _ _ hlt => hmono hlt
  have hmem : ∀ id, id ∈ g'.rulesFor n ↔ id ∈ (g.rulesFor n).map renumber := by
    intro id
    rw [List.mem_map, mem_rulesFor_iff]
    constructor
    · rintro ⟨rule, hrule, rfl⟩
      obtain ⟨old, rfl⟩ := hold hrule hreaches
      rw [hrules] at hrule
      exact ⟨old, g.mem_rulesFor_iff.2 ⟨rule, hrule, rfl⟩, rfl⟩
    · rintro ⟨old, hmem, rfl⟩
      obtain ⟨rule, hrule, hhead⟩ := g.mem_rulesFor_iff.1 hmem
      exact ⟨rule, (hrules old).trans hrule, hhead⟩
  exact (g'.rulesFor_ascend n).eq_of_mem_iff hascend hmem

end Earley.Grammar
