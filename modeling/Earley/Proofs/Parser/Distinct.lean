import Earley.Proofs.Parser.Results
import Earley.Proofs.Recognition.Distinct
import Earley.Proofs.Tree.Equality
import Earley.Proofs.Tree.Erasure

/-!
# Different trees

A parser gives no tree twice, as long as its grammar has no rule twice.
-/

namespace Earley

/-- The accepting items and their trees determine each other where no rule stands twice. -/
theorem Recognition.Filled.biUnique_shows {T N H Tok : Type} [DecidableEq N] [Terminal T Tok]
    {r : Recognition T N H Tok} {chart : Chart} (h : r.Filled chart)
    (hrules : r.grammar.rules.toList.Nodup) :
    Relator.BiUnique fun id tree =>
      id ∈ chart.acceptingIds r.grammar ∧ Tree.Shows r.grammar chart id tree := by
  constructor
  · rintro id id' tree ⟨hid, hshows⟩ ⟨hid', hshows'⟩
    obtain ⟨item, hitem, _, _, hfinishes⟩ := h.mem_acceptingIds_iff.1 hid
    obtain ⟨item', hitem', _, _, hfinishes'⟩ := h.mem_acceptingIds_iff.1 hid'
    exact h.id_eq_of_shows hrules hitem hitem' hfinishes hfinishes' hshows hshows'
  · rintro id tree tree' ⟨_, hshows⟩ ⟨_, hshows'⟩
    exact hshows.unique h.backpointers_lt hshows'

namespace Parser

variable {T N H Tok : Type} [DecidableEq T] [DecidableEq N] [DecidableEq H] [Terminal T Tok]

/-- Where no two rules agree in head, production and hooks, no two trees of a parse agree. -/
theorem parse_trees_differ (p : Parser T N H) (tokens : Array Tok)
    (hrules : p.grammar.rules.toList.Nodup) :
    ∃ trees, p.parse tokens = .ok trees ∧ trees.Pairwise fun t u => (t == u) = false := by
  obtain ⟨chart, trees, h⟩ := p.exists_results tokens
  have hshows : List.Forall₂ (fun id tree => id ∈ chart.acceptingIds p.grammar ∧
      Tree.Shows p.grammar chart id tree) (chart.acceptingIds p.grammar) trees :=
    (List.forall₂_and_left _ _).2 ⟨fun _ hid => hid, h.shows⟩
  have hunique := h.filled.biUnique_shows hrules
  have hnodup : trees.Nodup :=
    (List.rel_nodup hunique hshows).1 (Chart.nodup_acceptingIds h.filled.wellFormed)
  refine ⟨trees, h.parse_eq, hnodup.imp fun hne => ?_⟩
  rw [Bool.eq_false_iff, ne_eq, Tree.beq_iff_eq]
  exact hne

/-- A parser for `S → S` and for two rules `S → 'x'` that differ in a hook only. -/
def hookedCycle : Parser Char Unit Nat where
  grammar := ⟨#[⟨(), [.nonterminal ()], none, none⟩, ⟨(), [.terminal 'x'], some 1, none⟩,
    ⟨(), [.terminal 'x'], some 2, none⟩], (), [((), [0, 1, 2])], by decide, by decide⟩
  options := {}

/-- The trees of one token, among them two without a cycle, are different. -/
theorem parse_trees_differ_hookedCycle :
    hookedCycle.grammar.rules.toList.Nodup ∧
      ∃ trees, hookedCycle.parse #['x'] = .ok trees ∧
        trees.Pairwise fun t u => (t == u) = false :=
  have hrules : hookedCycle.grammar.rules.toList.Nodup := by decide
  ⟨hrules, parse_trees_differ hookedCycle #['x'] hrules⟩

end Parser

end Earley
