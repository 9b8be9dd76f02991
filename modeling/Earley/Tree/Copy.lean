import Earley.Tree.Basic

/-!
# Copying a tree

A tree is rebuilt from its leaves upwards: a node is assembled once all its children are. Finished
subtrees lie on a stack, so that the children of a node about to be assembled are the uppermost,
the last of them on top.
-/

namespace Earley.Tree

variable {T N H : Type}

/-- What remains to be done for a node. -/
inductive Task (T N H : Type) where
  /-- Rebuild its children, then assemble it. -/
  | descend (t : Tree T N H)
  /-- Put it on top of its rebuilt children. -/
  | assemble (t : Tree T N H)

/-- The tree that a task still has to descend into. -/
def Task.below : Task T N H → List (Tree T N H)
  | descend t => [t]
  | assemble _ => []

/-- The node above other children. -/
def withChildren (t : Tree T N H) (children : List (Tree T N H)) : Tree T N H :=
  match t with
  | leaf terminal span => leaf terminal span
  | node head _ enter exit span => node head children enter exit span

theorem below_descend (ts : List (Tree T N H)) :
    (ts.map Task.descend).flatMap Task.below = ts := by
  rw [List.flatMap_map]
  exact List.flatMap_singleton' ts

/-- Carries out the tasks in order, on a stack of finished subtrees. -/
def rebuild (pending : List (Task T N H)) (done : List (Tree T N H)) : List (Tree T N H) :=
  match pending with
  | [] => done
  | .descend t :: pending => rebuild (t.children.map .descend ++ .assemble t :: pending) done
  | .assemble t :: pending =>
    let width := t.children.length
    rebuild pending (t.withChildren (done.take width).reverse :: done.drop width)
termination_by (countAll (pending.flatMap Task.below), pending.length)
decreasing_by
  · refine Prod.Lex.left _ _ ?_
    rw [List.flatMap_append, below_descend, List.flatMap_cons, List.flatMap_cons]
    simp only [Task.below, countAll_append, countAll, count_eq]
    omega
  · exact Prod.Lex.right _ (Nat.lt_succ_self _)

/-- The tree, rebuilt node by node. -/
def copy (t : Tree T N H) : Tree T N H :=
  match rebuild [.descend t] [] with
  | copied :: _ => copied
  | [] => t.withChildren []

end Earley.Tree
