import Earley.Tree.Basic

/-!
# Measures and text of a tree

The nodes still to be visited wait on a stack. To visit a node means to put its children on that stack.
If the first of them comes to lie on top, nodes are visited in preorder, every node ahead of its children
and these from left to right. For the depth of a tree the order is of no account, and the last child
comes to lie on top.
-/

namespace Earley.Tree

variable {T N H : Type}

/-- Visits the waiting nodes and all below them in preorder, and puts them in front of `visited`,
    the latest first. -/
def visitAll (pending visited : List (Tree T N H)) : List (Tree T N H) :=
  match pending with
  | [] => visited
  | t :: pending => visitAll (t.children ++ pending) (t :: visited)
termination_by countAll pending
decreasing_by
  rw [countAll_append, countAll, count_eq]
  omega

/-- All nodes in preorder. -/
def preorder (t : Tree T N H) : List (Tree T N H) :=
  (visitAll [t] []).reverse

/-- The number of nodes. -/
def size (t : Tree T N H) : Nat :=
  t.preorder.length

/-- The terminals from left to right. -/
def leaves (t : Tree T N H) : List T :=
  t.preorder.filterMap (·.label.terminal?)

/-- The number of nodes of all trees of a list whose level is left out of account. -/
def countLevels (pending : List (Tree T N H × Nat)) : Nat :=
  countAll (pending.map Prod.fst)

theorem countLevels_descend (t : Tree T N H) (level : Nat) (pending : List (Tree T N H × Nat)) :
    countLevels (t.children.map (·, level) ++ pending) < countLevels ((t, level) :: pending) := by
  simp only [countLevels, List.map_append, List.map_map, Function.comp_def, List.map_id',
    List.map_cons, countAll, countAll_append, count_eq]
  omega

theorem countLevels_reverse_append (entries pending : List (Tree T N H × Nat)) :
    countLevels (entries.reverse ++ pending) = countLevels (entries ++ pending) := by
  simp only [countLevels, List.map_append, List.map_reverse, countAll_append, countAll_reverse]

/-- The deepest of `deepest` and the levels of all nodes below the waiting ones. -/
def deepestLevel (pending : List (Tree T N H × Nat)) (deepest : Nat) : Nat :=
  match pending with
  | [] => deepest
  | (t, level) :: pending =>
    deepestLevel ((t.children.map (·, level + 1)).reverse ++ pending) (max deepest level)
termination_by countLevels pending
decreasing_by
  rw [countLevels_reverse_append]
  exact countLevels_descend t _ pending

/-- The number of nodes on the longest path from the root to a node without children. -/
def depth (t : Tree T N H) : Nat :=
  deepestLevel [(t, 1)] 0

/-- Visits the waiting nodes and all below them in preorder, and puts each with its level in front
    of `visited`, the latest first. -/
def visitLevels (pending visited : List (Tree T N H × Nat)) : List (Tree T N H × Nat) :=
  match pending with
  | [] => visited
  | (t, level) :: pending =>
    visitLevels (t.children.map (·, level + 1) ++ pending) ((t, level) :: visited)
termination_by countLevels pending
decreasing_by exact countLevels_descend t _ pending

/-- All nodes in preorder, each with the number of nodes above it. -/
def outline (t : Tree T N H) : List (Tree T N H × Nat) :=
  (visitLevels [(t, 0)] []).reverse

/-- The line of a node: a tab for each node above it, then its symbol. -/
def line [Printable T] [Nonterminal N] (t : Tree T N H) (level : Nat) : String :=
  String.ofList (List.replicate level '\t') ++ t.label.text ++ "\n"

/-- One line for each node, in preorder. -/
def text [Printable T] [Nonterminal N] (t : Tree T N H) : String :=
  String.join (t.outline.map fun (below, level) => below.line level)

end Earley.Tree
