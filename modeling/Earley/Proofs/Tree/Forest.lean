import Mathlib.Data.List.Forall2
import Earley.Tree.Basic

/-!
# Forests

The children of a node are a forest, and so are the trees that wait in a list. A forest is its first tree
and the trees after it, and the first tree is its root above a smaller forest. Facts about trees are facts
about forests of one tree, and one induction serves all of them.
-/

namespace Earley.Tree

variable {T N H : Type}

@[simp]
theorem children_leaf (t : T) (span : Span) : (leaf t span : Tree T N H).children = [] :=
  rfl

@[simp]
theorem children_node (head : N) (below : List (Tree T N H)) (enter exit : Option H) (span : Span) :
    (node head below enter exit span).children = below :=
  rfl

@[simp]
theorem isLeaf_leaf (t : T) (span : Span) : (leaf t span : Tree T N H).isLeaf = true :=
  rfl

@[simp]
theorem isLeaf_node (head : N) (below : List (Tree T N H)) (enter exit : Option H) (span : Span) :
    (node head below enter exit span).isLeaf = false :=
  rfl

/-- What holds of a forest whenever it holds of the children of its first tree and of the trees after it
    holds of all forests. -/
@[elab_as_elim]
theorem forest_induction {motive : List (Tree T N H) → Prop} (nil : motive [])
    (cons : ∀ t ts, motive t.children → motive ts → motive (t :: ts)) (ts : List (Tree T N H)) :
    motive ts :=
  match ts with
  | [] => nil
  | t :: ts => cons t ts (forest_induction nil cons t.children) (forest_induction nil cons ts)
termination_by countAll ts
decreasing_by
  · simp only [countAll, count_eq]
    omega
  · have := t.count_pos
    simp only [countAll]
    omega

/-- Induction over a forest, by the form of its first tree. -/
@[elab_as_elim]
theorem forest_induction_on_root {motive : List (Tree T N H) → Prop} (nil : motive [])
    (leaf : ∀ t span ts, motive ts → motive (leaf t span :: ts))
    (node : ∀ head below enter exit span ts, motive below → motive ts →
      motive (node head below enter exit span :: ts))
    (ts : List (Tree T N H)) : motive ts := by
  induction ts using forest_induction with
  | nil => exact nil
  | cons t ts ihchildren ihrest =>
    cases t with
    | leaf t span => exact leaf t span ts ihrest
    | node head below enter exit span => exact node head below enter exit span ts ihchildren ihrest

mutual

/-- The nodes of a tree, each ahead of those below it, and these from left to right. -/
def nodes : Tree T N H → List (Tree T N H)
  | leaf t span => [leaf t span]
  | node head children enter exit span =>
    node head children enter exit span :: nodesAll children

/-- The nodes of all trees of a list. -/
def nodesAll : List (Tree T N H) → List (Tree T N H)
  | [] => []
  | t :: ts => nodes t ++ nodesAll ts

end

theorem nodes_eq (t : Tree T N H) : t.nodes = t :: nodesAll t.children := by
  cases t <;> rfl

@[simp]
theorem nodesAll_nil : nodesAll ([] : List (Tree T N H)) = [] :=
  rfl

@[simp]
theorem nodesAll_cons (t : Tree T N H) (ts : List (Tree T N H)) :
    nodesAll (t :: ts) = t :: (nodesAll t.children ++ nodesAll ts) := by
  rw [nodesAll, nodes_eq, List.cons_append]

theorem nodesAll_singleton (t : Tree T N H) : nodesAll [t] = t.nodes := by
  rw [nodesAll, nodesAll, List.append_nil]

theorem nodesAll_eq_flatMap (ts : List (Tree T N H)) : nodesAll ts = ts.flatMap nodes := by
  induction ts with
  | nil => rfl
  | cons t ts ih => rw [nodesAll, ih, List.flatMap_cons]

@[simp]
theorem nodesAll_append (ts us : List (Tree T N H)) :
    nodesAll (ts ++ us) = nodesAll ts ++ nodesAll us := by
  simp only [nodesAll_eq_flatMap, List.flatMap_append]

/-- The trees have the same shape, and nodes at the same place are alike. The nodes of the two trees may
    carry different data. -/
inductive Corresponds {T' N' H' : Type} (Alike : Tree T N H → Tree T' N' H' → Prop) :
    Tree T N H → Tree T' N' H' → Prop where
  | intro {t : Tree T N H} {u : Tree T' N' H'} (hroot : Alike t u)
      (hchildren : List.Forall₂ (Corresponds Alike) t.children u.children) :
      Corresponds Alike t u

/-- Where every node is like itself, every tree corresponds to itself. -/
theorem forall₂_corresponds_refl {Alike : Tree T N H → Tree T N H → Prop}
    (hrefl : ∀ t, Alike t t) (ts : List (Tree T N H)) :
    List.Forall₂ (Corresponds Alike) ts ts := by
  induction ts using forest_induction with
  | nil => exact .nil
  | cons t ts ihchildren ihrest => exact .cons (.intro (hrefl t) ihchildren) ihrest

end Earley.Tree
