import Earley.Parser.Basic
import Earley.Proofs.Recognition.Accepting
import Earley.Proofs.Tree.Build

/-!
# What a parser returns

A parser never fails. It fills the chart of its input, and gives for each accepting item of that chart
the tree that the item shows.
-/

namespace Earley.Parser

variable {T N H Tok : Type} [DecidableEq N] [Terminal T Tok]

/-- The chart of an input and the trees of its accepting items. -/
structure Results (p : Parser T N H) (tokens : Array Tok) (chart : Chart)
    (trees : List (Tree T N H)) : Prop where
  filled : (p.recognition tokens).Filled chart
  recognize_eq : p.recognize tokens = .ok chart
  accepting_eq : chart.accepting p.grammar = .ok (chart.acceptingIds p.grammar)
  accepts_eq : p.accepts tokens = .ok !(chart.acceptingIds p.grammar).isEmpty
  parse_eq : p.parse tokens = .ok trees
  shows : List.Forall₂ (Tree.Shows p.grammar chart) (chart.acceptingIds p.grammar) trees

theorem exists_results (p : Parser T N H) (tokens : Array Tok) :
    ∃ chart trees, p.Results tokens chart trees := by
  obtain ⟨chart, hchart, hfilled⟩ := (p.recognition tokens).chart_eq_ok
  have haccepting : chart.accepting p.grammar = .ok (chart.acceptingIds p.grammar) :=
    hfilled.accepting_eq_ok
  have hshows : ∀ id ∈ chart.acceptingIds p.grammar, ∃ tree, Tree.Shows p.grammar chart id tree := by
    intro id hid
    obtain ⟨item, hitem, _⟩ := hfilled.mem_acceptingIds_iff.1 hid
    exact Tree.exists_shows hfilled.ruled hfilled.backpointers_lt (lt_size_of_getElem? hitem)
  obtain ⟨trees, htrees⟩ := exists_forall₂ hshows
  refine ⟨chart, trees, hfilled, hchart, haccepting, ?_, ?_, htrees⟩
  · refine bind_eq_ok_iff.2 ⟨chart, hchart, ?_⟩
    exact bind_eq_ok_iff.2 ⟨_, haccepting, rfl⟩
  · refine bind_eq_ok_iff.2 ⟨chart, hchart, ?_⟩
    refine bind_eq_ok_iff.2 ⟨_, haccepting, ?_⟩
    exact mapM_eq_ok_iff_forall₂.2 (htrees.imp fun _ _ => Tree.build_eq_ok hfilled.backpointers_lt)

end Earley.Parser
