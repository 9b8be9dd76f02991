import Earley.Proofs.Parser.Results

/-!
# Exactness

A parser accepts an input, and has a tree for it, if and only if its grammar derives the input.
-/

namespace Earley.Parser

variable {T N H Tok : Type} [DecidableEq N] [Terminal T Tok]

/-- Recognition is exact for every grammar, every input and both ways to treat ambiguity. -/
theorem accepts_iff_derivesTokens (p : Parser T N H) (tokens : Array Tok) :
    ∃ accepted trees, p.accepts tokens = .ok accepted ∧ p.parse tokens = .ok trees ∧
      (accepted = true ↔ p.grammar.DerivesTokens tokens) ∧
      (trees ≠ [] ↔ p.grammar.DerivesTokens tokens) := by
  obtain ⟨chart, trees, h⟩ := p.exists_results tokens
  have hderives : chart.acceptingIds p.grammar ≠ [] ↔ p.grammar.DerivesTokens tokens :=
    h.filled.acceptingIds_ne_nil_iff
  refine ⟨_, trees, h.accepts_eq, h.parse_eq, ?_, ?_⟩
  · rw [← hderives]
    simp
  · rw [← hderives]
    have hlength := h.shows.length_eq
    rw [ne_eq, ne_eq, ← List.length_eq_zero_iff, ← List.length_eq_zero_iff, hlength]

end Earley.Parser
