import Earley.Proofs.Tree.Forest
import Earley.Tree.Equality

/-!
# Comparing trees

Comparing two trees by a list of waiting pairs tells whether they are equal: no pair is lost, and what a
pair of nodes leaves open is settled by the pairs of their children. Trees are equal when they agree node by
node.
-/

namespace Earley.Tree

variable {T N H : Type}

/-- Lists of the same length are equal if and only if their elements are, pair by pair. -/
theorem eq_iff_forall_mem_zip {ts us : List (Tree T N H)} (hlength : ts.length = us.length) :
    ts = us ↔ ∀ pair ∈ ts.zip us, pair.1 = pair.2 := by
  rw [← List.forall₂_eq_eq_eq, List.forall₂_iff_zip]
  constructor
  · rintro ⟨_, hpairs⟩ ⟨t, u⟩ hmem
    exact hpairs hmem
  · intro hpairs
    exact ⟨hlength, fun hmem => hpairs _ hmem⟩

/-- The nodes agree in all but their children. -/
structure SameNode (t u : Tree T N H) : Prop where
  label_eq : t.label = u.label
  span_eq : t.span = u.span
  enter_eq : t.enter? = u.enter?
  exit_eq : t.exit? = u.exit?

theorem SameNode.refl (t : Tree T N H) : SameNode t t :=
  ⟨rfl, rfl, rfl, rfl⟩

theorem SameNode.eq {t u : Tree T N H} (h : SameNode t u) (hchildren : t.children = u.children) :
    t = u := by
  obtain ⟨hlabel, hspan, henter, hexit⟩ := h
  cases t <;> cases u <;> simp_all [label, span, enter?, exit?]

theorem eq_of_forall₂_corresponds {ts us : List (Tree T N H)}
    (h : List.Forall₂ (Corresponds SameNode) ts us) : ts = us := by
  induction ts using forest_induction generalizing us with
  | nil =>
    cases h
    rfl
  | cons t ts ihchildren ihrest =>
    cases h with
    | cons hhead hrest =>
      obtain ⟨hroot, hchildren⟩ := hhead
      rw [hroot.eq (ihchildren hchildren), ihrest hrest]

/-- Trees are equal if and only if they agree node by node. -/
theorem corresponds_sameNode_iff {t u : Tree T N H} : Corresponds SameNode t u ↔ t = u := by
  constructor
  · intro h
    exact List.singleton_inj.1 (eq_of_forall₂_corresponds (.cons h .nil))
  · rintro rfl
    exact .intro (.refl t) (forall₂_corresponds_refl .refl t.children)

variable [DecidableEq T] [DecidableEq N] [DecidableEq H]

theorem sameRoot_self (t : Tree T N H) : sameRoot t t = true := by
  simp [sameRoot]

/-- What nodes that agree leave open is whether their children are equal. -/
theorem eq_iff_of_sameRoot {t u : Tree T N H} (h : sameRoot t u = true) :
    t = u ↔ ∀ pair ∈ t.children.zip u.children, pair.1 = pair.2 := by
  simp only [sameRoot, Bool.and_eq_true, decide_eq_true_eq] at h
  obtain ⟨⟨⟨⟨hlabel, hspan⟩, henter⟩, hexit⟩, hlength⟩ := h
  rw [← eq_iff_forall_mem_zip hlength]
  constructor
  · rintro rfl
    rfl
  · intro hchildren
    exact SameNode.eq ⟨hlabel, hspan, henter, hexit⟩ hchildren

/-- The waiting pairs agree if and only if all of them are pairs of equal trees. -/
theorem sameAll_iff {pending : List (Tree T N H × Tree T N H)} :
    sameAll pending = true ↔ ∀ pair ∈ pending, pair.1 = pair.2 := by
  induction pending using sameAll.induct with
  | case1 => simp [sameAll]
  | case2 t u pending hroot ih =>
    rw [sameAll, if_pos hroot, ih, List.forall_mem_append, List.forall_mem_cons,
      eq_iff_of_sameRoot hroot]
    simp only [List.mem_reverse]
  | case3 t u pending hroot =>
    rw [sameAll, if_neg hroot, List.forall_mem_cons]
    constructor
    · intro hfalse
      cases hfalse
    · rintro ⟨heq, _⟩
      obtain rfl : t = u := heq
      exact absurd (sameRoot_self t) hroot

theorem beq_iff_eq {t u : Tree T N H} : (t == u) = true ↔ t = u := by
  change sameAll [(t, u)] = true ↔ t = u
  rw [sameAll_iff, List.forall_mem_singleton]

end Earley.Tree
