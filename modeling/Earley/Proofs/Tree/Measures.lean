import Mathlib.Algebra.GroupWithZero.Nat
import Earley.Proofs.Tree.Forest
import Earley.Tree.Traversal

/-!
# Measures by recursion

Depth, size, leaves and text of a tree are read off a list of waiting nodes. What the list yields is what a
recursion over the waiting trees yields, whatever else waits behind them.
-/

namespace Earley.Tree

variable {T N H : Type}

section Preorder

theorem visitAll_eq (pending visited : List (Tree T N H)) :
    visitAll pending visited = (nodesAll pending).reverse ++ visited := by
  induction pending, visited using visitAll.induct with
  | case1 visited => simp [visitAll]
  | case2 visited t pending ih => simp [visitAll, ih]

theorem preorder_eq_nodes (t : Tree T N H) : t.preorder = t.nodes := by
  simp [preorder, visitAll_eq, nodes_eq]

theorem size_eq_length_nodes (t : Tree T N H) : t.size = t.nodes.length := by
  rw [size, preorder_eq_nodes]

theorem length_nodesAll (ts : List (Tree T N H)) : (nodesAll ts).length = (ts.map size).sum := by
  induction ts with
  | nil => rfl
  | cons t ts ih => rw [nodesAll, List.length_append, ih, List.map_cons, List.sum_cons, size_eq_length_nodes]

theorem size_eq (t : Tree T N H) : t.size = 1 + (t.children.map size).sum := by
  rw [size_eq_length_nodes, nodes_eq, List.length_cons, length_nodesAll, Nat.add_comm]

theorem leaves_eq_filterMap_nodes (t : Tree T N H) :
    t.leaves = t.nodes.filterMap (·.label.terminal?) := by
  rw [leaves, preorder_eq_nodes]

theorem leaves_eq (t : Tree T N H) :
    t.leaves = t.label.terminal?.toList ++ t.children.flatMap leaves := by
  simp only [funext leaves_eq_filterMap_nodes]
  rw [nodes_eq, nodesAll_eq_flatMap, List.filterMap_cons, List.filterMap_flatMap]
  cases t.label.terminal? <;> rfl

end Preorder

section Depth

mutual

/-- The number of nodes on the longest way down from the root. -/
def height : Tree T N H → Nat
  | leaf _ _ => 1
  | node _ children _ _ _ => heightAll children + 1

/-- The greatest height of the trees of a list. -/
def heightAll : List (Tree T N H) → Nat
  | [] => 0
  | t :: ts => max (height t) (heightAll ts)

end

theorem height_eq (t : Tree T N H) : t.height = heightAll t.children + 1 := by
  cases t <;> rfl

/-- The deepest level that the waiting trees reach. -/
def reached (pending : List (Tree T N H × Nat)) : Nat :=
  pending.foldr (fun (t, level) deepest => max (level + heightAll t.children) deepest) 0

theorem reached_cons (t : Tree T N H) (level : Nat) (pending : List (Tree T N H × Nat)) :
    reached ((t, level) :: pending) = max (level + heightAll t.children) (reached pending) :=
  rfl

theorem reached_append (pending rest : List (Tree T N H × Nat)) :
    reached (pending ++ rest) = max (reached pending) (reached rest) := by
  induction pending with
  | nil => simp [reached]
  | cons entry pending ih =>
    obtain ⟨t, level⟩ := entry
    rw [List.cons_append, reached_cons, reached_cons, ih, Nat.max_assoc]

theorem reached_reverse (pending : List (Tree T N H × Nat)) :
    reached pending.reverse = reached pending := by
  induction pending with
  | nil => rfl
  | cons entry pending ih =>
    rw [List.reverse_cons, reached_append, ih, Nat.max_comm, ← reached_append, List.singleton_append]

/-- Children that wait one level further down reach as deep as their height tells. -/
theorem max_reached_map (ts : List (Tree T N H)) (level : Nat) :
    max level (reached (ts.map (·, level + 1))) = level + heightAll ts := by
  induction ts with
  | nil => simp [reached, heightAll]
  | cons t ts ih =>
    rw [List.map_cons, reached_cons, heightAll, height_eq]
    omega

theorem deepestLevel_eq (pending : List (Tree T N H × Nat)) (deepest : Nat) :
    deepestLevel pending deepest = max deepest (reached pending) := by
  induction pending, deepest using deepestLevel.induct with
  | case1 deepest => simp [deepestLevel, reached]
  | case2 deepest t level pending ih =>
    have hchildren := max_reached_map t.children level
    rw [deepestLevel, ih, reached_append, reached_reverse, reached_cons]
    omega

theorem depth_eq_height (t : Tree T N H) : t.depth = t.height := by
  have hroot : reached [(t, 1)] = 1 + heightAll t.children := by simp [reached]
  rw [depth, deepestLevel_eq, hroot, height_eq]
  omega

theorem heightAll_eq (ts : List (Tree T N H)) : heightAll ts = (ts.map depth).max?.getD 0 := by
  induction ts with
  | nil => rfl
  | cons t ts ih =>
    rw [heightAll, ih, List.map_cons, depth_eq_height, List.max?_cons]
    cases (ts.map depth).max? <;> simp

theorem depth_eq (t : Tree T N H) : t.depth = 1 + (t.children.map depth).max?.getD 0 := by
  rw [depth_eq_height, height_eq, heightAll_eq, Nat.add_comm]

end Depth

section Levels

mutual

/-- The nodes of a tree, each ahead of those below it, with their levels if the root is at `level`. -/
def levelsFrom (level : Nat) : Tree T N H → List (Tree T N H × Nat)
  | leaf t span => [(leaf t span, level)]
  | node head children enter exit span =>
    (node head children enter exit span, level) :: levelsAll (level + 1) children

/-- The nodes of all trees of a list, with their levels if the roots are at `level`. -/
def levelsAll (level : Nat) : List (Tree T N H) → List (Tree T N H × Nat)
  | [] => []
  | t :: ts => levelsFrom level t ++ levelsAll level ts

end

theorem levelsFrom_eq (level : Nat) (t : Tree T N H) :
    levelsFrom level t = (t, level) :: levelsAll (level + 1) t.children := by
  cases t <;> rfl

theorem levelsAll_cons (level : Nat) (t : Tree T N H) (ts : List (Tree T N H)) :
    levelsAll level (t :: ts) =
      (t, level) :: (levelsAll (level + 1) t.children ++ levelsAll level ts) := by
  rw [levelsAll, levelsFrom_eq, List.cons_append]

theorem levelsAll_eq_flatMap (level : Nat) (ts : List (Tree T N H)) :
    levelsAll level ts = ts.flatMap (levelsFrom level) := by
  induction ts with
  | nil => rfl
  | cons t ts ih => rw [levelsAll, ih, List.flatMap_cons]

theorem visitLevels_eq (pending visited : List (Tree T N H × Nat)) :
    visitLevels pending visited =
      (pending.flatMap fun (t, level) => levelsFrom level t).reverse ++ visited := by
  induction pending, visited using visitLevels.induct with
  | case1 visited => simp [visitLevels]
  | case2 visited t level pending ih =>
    simp [visitLevels, ih, levelsFrom_eq level, levelsAll_eq_flatMap, List.flatMap_map]

theorem outline_eq (t : Tree T N H) : t.outline = levelsFrom 0 t := by
  simp [outline, visitLevels_eq]

end Levels

/-- The depth of a tree is one more than the greatest depth of its children, its size is one more than their
    sizes together, and its leaves are its terminal or else the leaves of its children from left to right.
    Its text has a line for each node, the nodes in the order of a recursion, with a tab for each level and
    the symbol of the node. -/
theorem measures_recursive [Printable T] [Nonterminal N] (t : Tree T N H) :
    t.depth = 1 + (t.children.map depth).max?.getD 0 ∧
      t.size = 1 + (t.children.map size).sum ∧
      t.leaves = (match t with
        | leaf terminal _ => [terminal]
        | node _ children _ _ _ => children.flatMap leaves) ∧
      t.text = String.join ((levelsFrom 0 t).map fun (below, level) =>
        String.ofList (List.replicate level '\t') ++ below.label.text ++ "\n") := by
  refine ⟨depth_eq t, size_eq t, ?_, ?_⟩
  · rw [leaves_eq]
    cases t <;> rfl
  · rw [text, outline_eq]
    rfl

end Earley.Tree
