import Earley.Tree.Basic

/-!
# Equality of trees

Two trees agree when their roots do, in symbol, tokens covered, hooks and number of children, and
their children agree pairwise. The pairs still to be compared wait on a stack, where the pairs of the
children of a node come to lie with the last of them on top.
-/

namespace Earley.Tree

variable {T N H : Type} [DecidableEq T] [DecidableEq N] [DecidableEq H]

/-- Whether two nodes agree when what is below them is left aside. -/
def sameRoot (t u : Tree T N H) : Bool :=
  t.label = u.label && t.span = u.span && t.enter? = u.enter? && t.exit? = u.exit? &&
    t.children.length = u.children.length

omit [DecidableEq T] [DecidableEq N] [DecidableEq H] in
theorem countAll_fst_zip_le (ts us : List (Tree T N H)) :
    countAll ((ts.zip us).map Prod.fst) ≤ countAll ts := by
  induction ts generalizing us with
  | nil => simp [countAll]
  | cons t ts ih =>
    cases us with
    | nil => simp [countAll]
    | cons u us =>
      have := ih us
      simp only [List.zip_cons_cons, List.map_cons, countAll]
      omega

/-- Whether the waiting pairs agree. -/
def sameAll (pending : List (Tree T N H × Tree T N H)) : Bool :=
  match pending with
  | [] => true
  | (t, u) :: pending =>
    if sameRoot t u then sameAll ((t.children.zip u.children).reverse ++ pending) else false
termination_by countAll (pending.map Prod.fst)
decreasing_by
  have := countAll_fst_zip_le t.children u.children
  simp only [List.map_append, List.map_reverse, countAll_append, countAll_reverse, List.map_cons,
    countAll, count_eq]
  omega

/-- Whether two trees agree. -/
def same (t u : Tree T N H) : Bool :=
  sameAll [(t, u)]

instance : BEq (Tree T N H) where
  beq := same

end Earley.Tree
