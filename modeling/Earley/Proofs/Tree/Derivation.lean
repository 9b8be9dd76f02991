import Earley.Proofs.Grammar.Derivation
import Earley.Tree.Basic

/-!
# Trees that derive

Trees derive a stretch of the input from a list of symbols when there is one for each symbol, each
beginning where the one before it ends, leaves admit their tokens, and every other node uses a rule of
the grammar. What this says about single nodes and about the leaves from left to right is read off by
induction on the derivation.
-/

namespace Earley

variable {T N H Tok : Type}

namespace Tree

/-- The node is the root of the tree or lies below it. -/
inductive OccursIn (t : Tree T N H) : Tree T N H → Prop where
  | root : OccursIn t t
  | child {u child : Tree T N H} (hchild : child ∈ u.children) (h : OccursIn t child) : OccursIn t u

mutual

/-- The leaves from left to right. -/
def leafNodes : Tree T N H → List (Tree T N H)
  | leaf t span => [leaf t span]
  | node _ children _ _ _ => leafNodesAll children

/-- The leaves of all trees of a list. -/
def leafNodesAll : List (Tree T N H) → List (Tree T N H)
  | [] => []
  | t :: ts => leafNodes t ++ leafNodesAll ts

end

/-- The spans of the trees cover the positions from `i` up to `k` from left to right, without gap or
    overlap. -/
def Adjoin : List (Tree T N H) → Nat → Nat → Prop
  | [], i, k => i = k
  | t :: ts, i, k => t.span.start = i ∧ i ≤ t.span.stop ∧ Adjoin ts t.span.stop k

/-- The node uses the rule: it is labelled with the head, its children stand for the production, and it
    carries the hooks. -/
structure Uses (t : Tree T N H) (rule : Rule T N H) : Prop where
  label_eq : t.label = .nonterminal rule.head
  labels_eq : t.children.map label = rule.production
  enter_eq : t.enter? = rule.enter
  exit_eq : t.exit? = rule.exit

/-- The leaf stands for the token at a position. -/
structure ReadsToken [Terminal T Tok] (tokens : Array Tok) (position : Nat) (t : Tree T N H) :
    Prop where
  admits : ∃ terminal, t.label = .terminal terminal ∧ AdmitsAt tokens position terminal
  span_eq : t.span = ⟨position, position + 1⟩
  enter_eq : t.enter? = none
  exit_eq : t.exit? = none

/-- The trees derive the tokens from position `i` up to position `k` from the symbols. -/
inductive Derive [DecidableEq N] [Terminal T Tok] (g : Grammar T N H) (tokens : Array Tok) :
    List (Symbol T N) → Nat → Nat → List (Tree T N H) → Prop where
  | nil (i : Nat) : Derive g tokens [] i i []
  | terminal {t : T} {symbols : List (Symbol T N)} {i k : Nat} {trees : List (Tree T N H)}
      (hadmits : AdmitsAt tokens i t) (hrest : Derive g tokens symbols (i + 1) k trees) :
      Derive g tokens (.terminal t :: symbols) i k (leaf t ⟨i, i + 1⟩ :: trees)
  | nonterminal {rule : Rule T N H} {symbols : List (Symbol T N)} {i j k : Nat}
      {children trees : List (Tree T N H)} (hrule : rule ∈ g.rules)
      (hchildren : Derive g tokens rule.production i j children)
      (hrest : Derive g tokens symbols j k trees) :
      Derive g tokens (.nonterminal rule.head :: symbols) i k
        (node rule.head children rule.enter rule.exit ⟨i, j⟩ :: trees)

namespace Derive

variable [DecidableEq N] [Terminal T Tok] {g : Grammar T N H} {tokens : Array Tok}
  {symbols : List (Symbol T N)} {i k : Nat} {trees : List (Tree T N H)}
  (h : Derive g tokens symbols i k trees)
include h

theorem le : i ≤ k := by
  induction h with
  | nil => exact Nat.le_refl _
  | terminal _ _ ih => omega
  | nonterminal _ _ _ ihchildren ihrest => omega

theorem labels_eq : trees.map label = symbols := by
  induction h with
  | nil => rfl
  | terminal _ _ ih => rw [List.map_cons, ih, label]
  | nonterminal _ _ _ _ ih => rw [List.map_cons, ih, label]

theorem adjoin : Adjoin trees i k := by
  induction h with
  | nil => rfl
  | terminal _ _ ih => exact ⟨rfl, Nat.le_succ _, ih⟩
  | nonterminal _ hchildren _ _ ih => exact ⟨rfl, hchildren.le, ih⟩

/-- Every node that is not a leaf uses a rule, and its children cover what it covers. -/
theorem uses_of_occursIn {t u : Tree T N H} (hu : u ∈ trees) (ht : OccursIn t u)
    (hleaf : t.isLeaf = false) :
    ∃ rule ∈ g.rules, Uses t rule ∧ Adjoin t.children t.span.start t.span.stop := by
  induction h generalizing u with
  | nil => cases hu
  | terminal _ _ ih =>
    cases hu with
    | head =>
      cases ht with
      | root => cases hleaf
      | child hchild => cases hchild
    | tail _ hu => exact ih hu ht
  | nonterminal hrule hchildren _ ihchildren ihrest =>
    cases hu with
    | head =>
      cases ht with
      | root => exact ⟨_, hrule, ⟨rfl, hchildren.labels_eq, rfl, rfl⟩, hchildren.adjoin⟩
      | child hchild ht => exact ihchildren hchild ht
    | tail _ hu => exact ihrest hu ht

/-- There is a leaf for each token. -/
theorem length_leafNodesAll : i + (leafNodesAll trees).length = k := by
  induction h with
  | nil => rfl
  | terminal _ _ ih =>
    simp only [leafNodesAll, leafNodes, List.length_append, List.length_singleton]
    omega
  | nonterminal _ _ _ ihchildren ihrest =>
    simp only [leafNodesAll, leafNodes, List.length_append]
    omega

/-- The leaves from left to right stand for the tokens in order. -/
theorem readsToken_leafNodesAll {m : Nat} {t : Tree T N H} (ht : (leafNodesAll trees)[m]? = some t) :
    ReadsToken tokens (i + m) t := by
  induction h generalizing m with
  | nil => cases ht
  | @terminal terminal _ i _ _ hadmits _ ih =>
    cases m with
    | zero =>
      cases ht
      exact ⟨⟨terminal, rfl, hadmits⟩, rfl, rfl, rfl⟩
    | succ m =>
      rw [Nat.add_comm m, ← Nat.add_assoc]
      exact ih ht
  | @nonterminal _ _ i j _ children _ _ hchildren _ ihchildren ihrest =>
    simp only [leafNodesAll, leafNodes] at ht
    have hlength := hchildren.length_leafNodesAll
    by_cases hm : m < (leafNodesAll children).length
    · rw [List.getElem?_append_left hm] at ht
      exact ihchildren ht
    · rw [List.getElem?_append_right (Nat.le_of_not_lt hm)] at ht
      have hread := ihrest ht
      have hposition : j + (m - (leafNodesAll children).length) = i + m := by omega
      rwa [hposition] at hread

end Derive

end Tree

end Earley
