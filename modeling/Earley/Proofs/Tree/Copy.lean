import Mathlib.Logic.Relation
import Earley.Proofs.Tree.Equality
import Earley.Proofs.Tree.Forest
import Earley.Tree.Copy

/-!
# Copies

A copy in progress promises a stack of finished subtrees: a task to rebuild a tree will put that tree on
top, and a task to assemble a node will find its children there. Every step keeps the promise, so that
children never lack on the stack, and the copy ends with the tree alone on it.
-/

namespace Earley.Tree

variable {T N H : Type}

/-- A copy in progress: the tasks that are left, and the stack of finished subtrees. -/
structure Copying (T N H : Type) where
  pending : List (Task T N H)
  done : List (Tree T N H)

namespace Copying

/-- The copy of a tree before its first step. -/
def start (t : Tree T N H) : Copying T N H :=
  ⟨[.descend t], []⟩

/-- The copy after its next step. No step is left without a task. -/
def next? : Copying T N H → Option (Copying T N H)
  | ⟨[], _⟩ => none
  | ⟨.descend t :: pending, done⟩ => some ⟨t.children.map .descend ++ .assemble t :: pending, done⟩
  | ⟨.assemble t :: pending, done⟩ =>
    let width := t.children.length
    some ⟨pending, t.withChildren (done.take width).reverse :: done.drop width⟩

/-- The second copy in progress is reached from the first. -/
def Leads : Copying T N H → Copying T N H → Prop :=
  Relation.ReflTransGen fun copying later => copying.next? = some later

/-- The finished subtrees are enough to take the children of the node to be assembled next. -/
def Supplied (copying : Copying T N H) : Prop :=
  ∀ t rest, copying.pending = .assemble t :: rest → t.children.length ≤ copying.done.length

/-- The tasks will end with this stack: to rebuild a tree puts it on top, and to assemble a node takes its
    children from there. -/
def Promises (result : List (Tree T N H)) : List (Task T N H) → List (Tree T N H) → Prop
  | [], done => done = result
  | .descend t :: pending, done => Promises result pending (t :: done)
  | .assemble t :: pending, done =>
    ∃ below, done = t.children.reverse ++ below ∧ Promises result pending (t :: below)

variable {result : List (Tree T N H)}

/-- To rebuild the trees of a forest in order puts them on top, the last one uppermost. -/
theorem promises_descend_iff {ts : List (Tree T N H)} {pending : List (Task T N H)}
    {done : List (Tree T N H)} :
    Promises result (ts.map .descend ++ pending) done ↔ Promises result pending (ts.reverse ++ done) := by
  induction ts generalizing done with
  | nil => rfl
  | cons t ts ih =>
    rw [List.map_cons, List.cons_append, Promises, ih, List.reverse_cons, List.append_assoc,
      List.singleton_append]

theorem withChildren_children (t : Tree T N H) : t.withChildren t.children = t := by
  cases t <;> rfl

/-- A step keeps the promise. -/
theorem promises_of_next {copying later : Copying T N H}
    (h : Promises result copying.pending copying.done) (hnext : copying.next? = some later) :
    Promises result later.pending later.done := by
  obtain ⟨_ | ⟨task, pending⟩, done⟩ := copying
  · cases hnext
  · cases task with
    | descend t =>
      cases hnext
      exact promises_descend_iff.2 ⟨done, rfl, h⟩
    | assemble t =>
      cases hnext
      obtain ⟨below, rfl, hpromises⟩ := h
      have hwidth : t.children.reverse.length = t.children.length := List.length_reverse
      simp only [← hwidth, List.take_left, List.drop_left, List.reverse_reverse,
        withChildren_children]
      exact hpromises

theorem promises_of_leads {copying later : Copying T N H}
    (h : Promises result copying.pending copying.done) (hleads : copying.Leads later) :
    Promises result later.pending later.done := by
  induction hleads with
  | refl => exact h
  | tail _ hnext ih => exact promises_of_next ih hnext

theorem supplied_of_promises {copying : Copying T N H}
    (h : Promises result copying.pending copying.done) : copying.Supplied := by
  rintro t rest hpending
  rw [hpending] at h
  obtain ⟨below, hdone, _⟩ := h
  rw [hdone, List.length_append, List.length_reverse]
  omega

/-- The steps come to an end, with the stack that is promised. -/
theorem leads_of_promises {pending : List (Task T N H)} {done : List (Tree T N H)}
    (h : Promises result pending done) : Leads ⟨pending, done⟩ ⟨[], result⟩ := by
  induction pending, done using rebuild.induct with
  | case1 done =>
    cases h
    exact .refl
  | case2 done t pending ih =>
    have hnext : next? ⟨.descend t :: pending, done⟩ =
      some ⟨t.children.map .descend ++ .assemble t :: pending, done⟩ := rfl
    exact .head hnext (ih (promises_of_next h hnext))
  | case3 done t pending width ih =>
    have hnext : next? ⟨.assemble t :: pending, done⟩ =
      some ⟨pending, t.withChildren (done.take width).reverse :: done.drop width⟩ := rfl
    exact .head hnext (ih (promises_of_next h hnext))

/-- Rebuilding takes these steps. -/
theorem rebuild_eq_of_leads {copying later : Copying T N H} (h : copying.Leads later) :
    rebuild copying.pending copying.done = rebuild later.pending later.done := by
  induction h with
  | refl => rfl
  | @tail middle later _ hnext ih =>
    rw [ih]
    obtain ⟨_ | ⟨task, pending⟩, done⟩ := middle
    · cases hnext
    · cases task <;> cases hnext <;> rw [rebuild]

end Copying

theorem rebuild_eq (t : Tree T N H) : rebuild [.descend t] [] = [t] := by
  have hleads : (Copying.start t).Leads ⟨[], [t]⟩ := Copying.leads_of_promises rfl
  have hrebuild := Copying.rebuild_eq_of_leads hleads
  rwa [rebuild] at hrebuild

theorem copy_eq (t : Tree T N H) : copy t = t := by
  rw [copy, rebuild_eq]

/-- Two trees compare equal if and only if they agree recursively, node by node and child by child. A copy
    agrees with its original in the same way. Copying comes to an end with the copy alone on the stack, and
    on the way children never lack when a node is assembled. -/
theorem beq_iff_corresponds_and_copy_eq [DecidableEq T] [DecidableEq N] [DecidableEq H]
    (t u : Tree T N H) :
    ((t == u) = true ↔ Corresponds SameNode t u) ∧
      Corresponds SameNode (copy t) t ∧
      (Copying.start t).Leads ⟨[], [copy t]⟩ ∧
      ∀ copying, (Copying.start t).Leads copying →
        copying.Supplied ∧ rebuild copying.pending copying.done = [copy t] := by
  have hstart : Copying.Promises [t] (Copying.start t).pending (Copying.start t).done := rfl
  rw [copy_eq]
  refine ⟨beq_iff_eq.trans corresponds_sameNode_iff.symm, corresponds_sameNode_iff.2 rfl,
    Copying.leads_of_promises hstart, fun copying hleads => ⟨?_, ?_⟩⟩
  · exact Copying.supplied_of_promises (Copying.promises_of_leads hstart hleads)
  · rw [← Copying.rebuild_eq_of_leads hleads]
    exact rebuild_eq t

end Earley.Tree
