import Earley.Tree.Basic

/-!
# Walking a tree

A visitor is told when an interior node is entered and left and when a leaf is met, with its own
state in hand, and may end the walk each time. The nodes that have been entered and not yet left
wait in a list, each with those of its children that have not been visited.
-/

namespace Earley

/-- Whether a walk goes on. -/
inductive Flow where
  | proceed
  | halt
deriving DecidableEq, Repr

/-- What to do at the nodes of a tree. By default nothing is done and the walk goes on. -/
structure Visitor (T N H σ : Type) where
  /-- On entering an interior node, ahead of its children. -/
  enter : Tree T N H → σ → Flow × σ := fun _ s => (.proceed, s)
  /-- On leaving an interior node, after its children. -/
  exit : Tree T N H → σ → Flow × σ := fun _ s => (.proceed, s)
  /-- On meeting a leaf. -/
  leaf : Tree T N H → σ → Flow × σ := fun _ s => (.proceed, s)

namespace Tree

variable {T N H σ : Type}

/-- Walks on from where each of the given nodes has been entered. -/
def walkFrom (v : Visitor T N H σ) (frames : List (Tree T N H × List (Tree T N H))) (s : σ) :
    Flow × σ :=
  match frames with
  | [] => (.proceed, s)
  | (parent, []) :: frames =>
    match v.exit parent s with
    | (.halt, s) => (.halt, s)
    | (.proceed, s) => walkFrom v frames s
  | (parent, child :: rest) :: frames =>
    if child.isLeaf then
      match v.leaf child s with
      | (.halt, s) => (.halt, s)
      | (.proceed, s) => walkFrom v ((parent, rest) :: frames) s
    else
      match v.enter child s with
      | (.halt, s) => (.halt, s)
      | (.proceed, s) => walkFrom v ((child, child.children) :: (parent, rest) :: frames) s
termination_by 2 * countAll (frames.flatMap Prod.snd) + frames.length
decreasing_by
  · simp
  · have := child.count_pos
    simp only [List.flatMap_cons, List.length_cons, countAll_append, countAll]
    omega
  · simp only [List.flatMap_cons, List.length_cons, countAll_append, countAll, count_eq]
    omega

/-- Walks a tree depth first, from left to right. -/
def walk (v : Visitor T N H σ) (t : Tree T N H) (s : σ) : Flow × σ :=
  if t.isLeaf then
    v.leaf t s
  else
    match v.enter t s with
    | (.halt, s) => (.halt, s)
    | (.proceed, s) => walkFrom v [(t, t.children)] s

end Tree

end Earley
