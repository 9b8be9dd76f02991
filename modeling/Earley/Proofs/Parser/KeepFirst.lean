import Earley.Proofs.Parser.Results
import Earley.Proofs.Recognition.Erasure
import Earley.Proofs.Recognition.FirstDerivations

/-!
# Keeping first derivations

A parser that keeps first derivations gives a part of what one that merges derivations gives: the same
chart without its alternatives, and of the trees one for each start rule that derives the input.
-/

namespace Earley.Parser

variable {T N H Tok : Type} [DecidableEq N] [Terminal T Tok]

/-- Where derivations are kept first instead of being merged, the chart is the same without its
    alternatives, and the trees come in the same order, one for each start rule whose production derives
    the whole input. -/
theorem keepFirst_erases_merge (g : Grammar T N H) (options : ParserOptions) (tokens : Array Tok) :
    ∃ merged kept mergedTrees keptTrees rules,
      (Parser.mk g { options with ambiguity := .merge }).recognize tokens = .ok merged ∧
      (Parser.mk g { options with ambiguity := .keepFirst }).recognize tokens = .ok kept ∧
      merged.ErasesTo kept ∧
      (Parser.mk g { options with ambiguity := .merge }).parse tokens = .ok mergedTrees ∧
      (Parser.mk g { options with ambiguity := .keepFirst }).parse tokens = .ok keptTrees ∧
      keptTrees.Sublist mergedTrees ∧
      rules.Nodup ∧
      (∀ id, id ∈ rules ↔ ∃ rule, g.rules[id]? = some rule ∧ rule.head = g.start ∧
        g.DerivesStretch tokens rule.production 0 tokens.size) ∧
      List.Forall₂ (fun id tree => ∃ slot rule, kept.Completes g tokens.size slot id ∧
        Tree.build g kept slot = .ok tree ∧ g.rules[id]? = some rule ∧ tree.Uses rule)
        rules keptTrees := by
  obtain ⟨merged, mergedTrees, h⟩ := exists_results ⟨g, { options with ambiguity := .merge }⟩ tokens
  obtain ⟨kept, keptTrees, h'⟩ := exists_results ⟨g, { options with ambiguity := .keepFirst }⟩ tokens
  obtain ⟨chart, chart', hchart, hchart', herases⟩ :=
    Recognition.exists_chart_erasesTo ⟨g, tokens, .merge⟩
  have hmerged := h.recognize_eq.symm.trans hchart
  have hkept := h'.recognize_eq.symm.trans hchart'
  cases hmerged
  cases hkept
  obtain ⟨rules, hrules, hnodup, hmem⟩ := h'.filled.exists_completed_rules herases.no_alternatives
  refine ⟨merged, kept, mergedTrees, keptTrees, rules, h.recognize_eq, h'.recognize_eq, herases,
    h.parse_eq, h'.parse_eq, herases.sublist_trees h'.filled.backpointers_lt h.shows h'.shows, hnodup,
    hmem, ?_⟩
  refine (forall₂_of_common hrules h'.shows).imp ?_
  rintro id tree ⟨slot, hcompletes, hshows⟩
  obtain ⟨rule, hrule, huses⟩ := h'.filled.uses_of_completes hcompletes hshows
  exact ⟨slot, rule, hcompletes, Tree.build_eq_ok h'.filled.backpointers_lt hshows, hrule, huses⟩

end Earley.Parser
