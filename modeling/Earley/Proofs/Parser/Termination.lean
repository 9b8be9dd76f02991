import Earley.Proofs.Parser.Results

/-!
# Termination

A parser finishes its work on every input. After finitely many steps the last column is closed, no step
on the way is a fault, and neither is anything that building the trees looks up.
-/

namespace Earley.Parser

variable {T N H Tok : Type} [DecidableEq N] [Terminal T Tok]

/-- Recognition and tree building end without a fault, and each column ends with no more slots than
    there are dotted rules with an origin up to its position. -/
theorem finishes_without_fault (p : Parser T N H) (tokens : Array Tok) :
    (∀ steps, ∃ outcome,
      (p.recognition tokens).step ((p.recognition tokens).after steps) = .ok outcome) ∧
    ∃ steps chart trees,
      (p.recognition tokens).step ((p.recognition tokens).after steps) = .ok (.closed chart) ∧
      p.recognize tokens = .ok chart ∧
      (∀ position, position ≤ tokens.size → ∃ column, chart.column position = .ok column ∧
        column.slots.size ≤ (position + 1) * (p.grammar.rules.toList.map (·.length + 1)).sum) ∧
      Tree.buildAll p.grammar chart = .ok trees := by
  constructor
  · intro steps
    have hinvariant := ((p.recognition tokens).reachable_after steps).invariant
    obtain ⟨outcome, hstep, _⟩ := Recognition.step_eq_ok hinvariant.sound hinvariant.tracked
    exact ⟨outcome, hstep⟩
  · obtain ⟨chart, trees, h⟩ := p.exists_results tokens
    obtain ⟨found, last, hfound, hreachable, hclosed⟩ :=
      (p.recognition tokens).exists_reachable_closed
    have hsame : p.recognize tokens = .ok found := hfound
    rw [h.recognize_eq] at hsame
    cases hsame
    obtain ⟨steps, rfl⟩ := hreachable.exists_after
    refine ⟨steps, chart, trees, hclosed, h.recognize_eq, fun position hposition => ?_, ?_⟩
    · have hlt : position < chart.columns.size := by
        rw [h.filled.size_columns]
        exact Nat.lt_succ_of_le hposition
      have hcolumn := Array.getElem?_eq_getElem hlt
      refine ⟨_, Chart.column_eq_ok_iff.2 hcolumn, ?_⟩
      rw [← Array.length_toList, ← Chart.slotsAt_of_column hcolumn, List.sum_eq_foldl_nat]
      exact Recognition.length_slotsAt_le h.filled.wellFormed h.filled.justified position
    · have hparse := h.parse_eq
      unfold parse at hparse
      rw [h.recognize_eq] at hparse
      exact hparse

end Earley.Parser
