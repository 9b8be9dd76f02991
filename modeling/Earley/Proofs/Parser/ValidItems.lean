import Earley.Proofs.Parser.Results
import Earley.Proofs.Recognition.Validity

/-!
# What columns hold

The grammar and the tokens alone decide for which items a column has slots. How ambiguity is treated
has no say in it.
-/

namespace Earley.Parser

variable {T N H Tok : Type} [DecidableEq N] [Terminal T Tok]

/-- Columns hold the valid items, under any two ways to treat ambiguity. -/
theorem columns_hold_valid_items (g : Grammar T N H) (options other : ParserOptions)
    (tokens : Array Tok) :
    ∃ chart chart', (Parser.mk g options).recognize tokens = .ok chart ∧
      (Parser.mk g other).recognize tokens = .ok chart' ∧
      ∀ position ≤ tokens.size, ∀ key,
        (chart.HasSlot position key ↔ g.ValidAt tokens position key) ∧
        (chart'.HasSlot position key ↔ chart.HasSlot position key) := by
  obtain ⟨chart, _, h⟩ := exists_results ⟨g, options⟩ tokens
  obtain ⟨chart', _, h'⟩ := exists_results ⟨g, other⟩ tokens
  refine ⟨chart, chart', h.recognize_eq, h'.recognize_eq, fun position hposition key => ?_⟩
  have hvalid : chart.HasSlot position key ↔ g.ValidAt tokens position key :=
    h.filled.hasSlot_iff_validAt hposition
  have hvalid' : chart'.HasSlot position key ↔ g.ValidAt tokens position key :=
    h'.filled.hasSlot_iff_validAt hposition
  exact ⟨hvalid, hvalid'.trans hvalid.symm⟩

end Earley.Parser
