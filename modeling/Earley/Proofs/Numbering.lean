import Mathlib.Logic.Equiv.Basic
import Mathlib.Order.Monotone.Basic

/-!
# Elements under other numbers

Where rules are reordered, inserted or left out, the other rules go by other numbers. The new number of an
element is the place at which it stands in the new list.
-/

namespace Earley

variable {α : Type}

/-- Where one list is another order of a second one, their positions are renumbered. -/
theorem exists_perm_getElem? {l l' : List α} (h : l.Perm l') :
    ∃ renumber : Equiv.Perm Nat, ∀ i, l'[renumber i]? = l[i]? := by
  induction h with
  | nil => exact ⟨Equiv.refl Nat, fun _ => rfl⟩
  | cons a _ ih =>
    -- The head keeps its number, and the others are renumbered as before, one further on.
    obtain ⟨renumber, hrest⟩ := ih
    refine ⟨Equiv.natSumPUnitEquivNat.permCongr (renumber.sumCongr (Equiv.refl Unit)), ?_⟩
    rintro (_ | i)
    · rfl
    · exact hrest i
  | swap a b l =>
    refine ⟨Equiv.swap 0 1, ?_⟩
    rintro (_ | _ | i)
    · rfl
    · rfl
    · rw [Equiv.swap_apply_of_ne_of_ne (Nat.succ_ne_zero _) (Nat.succ_succ_ne_one i)]
      rfl
  | trans _ _ ih ih' =>
    obtain ⟨renumber, hfirst⟩ := ih
    obtain ⟨renumber', hsecond⟩ := ih'
    exact ⟨renumber.trans renumber', fun i => (hsecond _).trans (hfirst i)⟩

/-- The elements of the first list stand in the second one under these numbers, in the same order, and the
    second list has no further elements of the kind. -/
structure StandsIn (kind : α → Prop) (l l' : List α) (renumber : Nat → Nat) : Prop where
  strictMono : StrictMono renumber
  getElem?_eq : ∀ i, l'[renumber i]? = l[i]?
  exists_of_kind : ∀ {j a}, l'[j]? = some a → kind a → ∃ i, renumber i = j

namespace StandsIn

variable {kind : α → Prop} {l l' : List α} {renumber : Nat → Nat}

theorem nil : StandsIn kind [] [] id where
  strictMono := strictMono_id
  getElem?_eq _ := rfl
  exists_of_kind h := by simp at h

theorem keep (h : StandsIn kind l l' renumber) (a : α) :
    StandsIn kind (a :: l) (a :: l') fun | 0 => 0 | i + 1 => renumber i + 1 where
  strictMono := by
    refine strictMono_nat_of_lt_succ fun i => ?_
    cases i with
    | zero => exact Nat.succ_pos _
    | succ i => exact Nat.succ_lt_succ (h.strictMono (Nat.lt_succ_self i))
  getElem?_eq i := by
    cases i with
    | zero => rfl
    | succ i => exact h.getElem?_eq i
  exists_of_kind {j b} hb hkind := by
    cases j with
    | zero => exact ⟨0, rfl⟩
    | succ j =>
      obtain ⟨i, rfl⟩ := h.exists_of_kind hb hkind
      exact ⟨i + 1, rfl⟩

theorem insert (h : StandsIn kind l l' renumber) {a : α} (ha : ¬ kind a) :
    StandsIn kind l (a :: l') fun i => renumber i + 1 where
  strictMono _ _ hlt := Nat.succ_lt_succ (h.strictMono hlt)
  getElem?_eq := h.getElem?_eq
  exists_of_kind {j b} hb hkind := by
    cases j with
    | zero =>
      cases hb
      exact absurd hkind ha
    | succ j =>
      obtain ⟨i, rfl⟩ := h.exists_of_kind hb hkind
      exact ⟨i, rfl⟩

end StandsIn

/-- What a filter keeps stands in the list that was filtered. -/
theorem exists_standsIn_filter (p : α → Bool) (l : List α) :
    ∃ renumber, StandsIn (fun a => p a = true) (l.filter p) l renumber := by
  induction l with
  | nil => exact ⟨id, .nil⟩
  | cons a l ih =>
    obtain ⟨renumber, hrest⟩ := ih
    by_cases ha : p a = true
    · rw [List.filter_cons_of_pos ha]
      exact ⟨_, hrest.keep a⟩
    · rw [List.filter_cons_of_neg ha]
      exact ⟨_, hrest.insert ha⟩

end Earley
