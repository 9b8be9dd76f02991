import Earley.Proofs.Parser.Results
import Earley.Proofs.Recognition.Trees

/-!
# The trees of a parse

Every tree that a parser returns derives its whole input from the start symbol.
-/

namespace Earley.Parser

variable {T N H Tok : Type} [DecidableEq N] [Terminal T Tok]

/-- A returned tree has the start symbol at its root and covers the input. Each of its interior nodes
    uses a rule of the grammar and is covered by its children, and its leaves stand for the tokens of
    the input in order. -/
theorem parse_trees_derive (p : Parser T N H) (tokens : Array Tok) :
    ∃ trees, p.parse tokens = .ok trees ∧ ∀ tree ∈ trees,
      tree.label = .nonterminal p.grammar.start ∧ tree.span = ⟨0, tokens.size⟩ ∧
      (∀ t, Tree.OccursIn t tree → t.isLeaf = false →
        ∃ rule ∈ p.grammar.rules, t.Uses rule ∧ Tree.Adjoin t.children t.span.start t.span.stop) ∧
      tree.leafNodes.length = tokens.size ∧
      ∀ i leaf, tree.leafNodes[i]? = some leaf → Tree.ReadsToken tokens i leaf := by
  obtain ⟨chart, trees, h⟩ := p.exists_results tokens
  refine ⟨trees, h.parse_eq, fun tree htree => ?_⟩
  obtain ⟨id, hid, hshows⟩ := exists_mem_of_forall₂ h.shows htree
  have hderive : Tree.Derive p.grammar tokens [.nonterminal p.grammar.start] 0 tokens.size [tree] :=
    h.filled.derive_of_shows hid hshows
  have hlength := hderive.length_leafNodesAll
  have hreads := fun {i : Nat} {t : Tree T N H} => hderive.readsToken_leafNodesAll (m := i) (t := t)
  simp only [Tree.leafNodesAll, List.append_nil, Nat.zero_add] at hlength hreads
  refine ⟨?_, ?_, ?_, hlength, fun i leaf => hreads⟩
  · exact List.singleton_inj.1 hderive.labels_eq
  · obtain ⟨hstart, _, hstop⟩ := hderive.adjoin
    exact congrArg₂ Span.mk hstart hstop
  · intro t ht hleaf
    exact hderive.uses_of_occursIn List.mem_cons_self ht hleaf

end Earley.Parser
