import Earley.Proofs.Parser.Results
import Earley.Proofs.Recognition.DeadRules

/-!
# Rules that name undefined nonterminals

A parser that ignores undefined nonterminals treats the rules that name them as dead branches. It predicts
them, so its charts differ from those of the grammar without these rules, and the order of its trees may.
But it accepts the same inputs and returns as many trees.
-/

namespace Earley

variable {T N H Tok : Type} [DecidableEq N]

/-- A grammar without its dead rules makes for a recognition without them. -/
theorem Grammar.PrunesTo.exists_prunes {g g' : Grammar T N H} (h : g.PrunesTo g')
    (tokens : Array Tok) (policy : AmbiguityPolicy) :
    ∃ renumber, Recognition.Prunes ⟨g', tokens, policy⟩ ⟨g, tokens, policy⟩ renumber := by
  obtain ⟨renumber, hembeds, hkept⟩ := h.exists_embedsIn
  exact ⟨renumber, ⟨hembeds, rfl, rfl⟩, h, hkept⟩

namespace Parser

variable [Terminal T Tok]

/-- Undefined nonterminals are ignored on request. -/
theorem create_ignore [Nonterminal N] (g : Grammar T N H) (policy : AmbiguityPolicy) :
    create g ⟨policy, .ignore⟩ = .ok ⟨g, ⟨policy, .ignore⟩⟩ :=
  rfl

/-- Without its dead rules a grammar gives the same answers and as many trees. If they are all the rules
    that the start symbol has, nothing is accepted. -/
theorem dead_rules_keep_counts [Nonterminal N] (g : Grammar T N H) (policy : AmbiguityPolicy)
    (tokens : Array Tok) :
    ∃ p accepted trees, create g ⟨policy, .ignore⟩ = .ok p ∧
      p.accepts tokens = .ok accepted ∧ p.parse tokens = .ok trees ∧
      match g.pruned? with
      | some g' => ∃ p' trees', create g' ⟨policy, .ignore⟩ = .ok p' ∧
          p'.accepts tokens = .ok accepted ∧ p'.parse tokens = .ok trees' ∧
          trees'.length = trees.length
      | none => accepted = false := by
  obtain ⟨chart, trees, h⟩ := exists_results ⟨g, ⟨policy, .ignore⟩⟩ tokens
  refine ⟨_, _, trees, create_ignore g policy, h.accepts_eq, h.parse_eq, ?_⟩
  cases hpruned : g.pruned? with
  | none =>
    have hnone : chart.acceptingIds g = [] := by
      by_contra hne
      obtain ⟨id, hid⟩ := List.exists_mem_of_ne_nil _ hne
      obtain ⟨rule, hrule, hhead⟩ := h.filled.exists_live_of_mem_acceptingIds hid
      exact Grammar.pruned?_eq_none_iff.1 hpruned rule hrule hhead
    simp [hnone]
  | some g' =>
    obtain ⟨chart', trees', h'⟩ := exists_results ⟨g', ⟨policy, .ignore⟩⟩ tokens
    obtain ⟨renumber, hprunes⟩ :=
      (Grammar.pruned?_eq_some_iff.1 hpruned).exists_prunes tokens policy
    have hplain := Recognition.plain_of_chart_eq_ok h.recognize_eq
    have hplain' := Recognition.plain_of_chart_eq_ok h'.recognize_eq
    have hlength : (chart'.acceptingIds g').length = (chart.acceptingIds g).length :=
      hprunes.length_acceptingIds_eq h'.filled h.filled hplain' hplain
    have hempty : (chart'.acceptingIds g').isEmpty = (chart.acceptingIds g).isEmpty := by
      rw [Bool.eq_iff_iff, List.isEmpty_iff_length_eq_zero, List.isEmpty_iff_length_eq_zero, hlength]
    refine ⟨_, trees', create_ignore g' policy, ?_, h'.parse_eq, ?_⟩
    · rw [h'.accepts_eq, hempty]
    · rw [← h.shows.length_eq, ← h'.shows.length_eq, hlength]

end Parser

end Earley
