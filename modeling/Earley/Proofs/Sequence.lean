import Mathlib.Data.List.Forall2
import Mathlib.Data.List.Perm.Subperm
import Earley.Fault

/-!
# Sequences of steps that do not fail

Charts are read by mapping and filtering lists of ids with operations that may fail. Where each of
them succeeds, so does the whole, and its result is that of the plain list operation. The images of a
mapping are partners of the elements, and lists are compared by their partners.
-/

namespace Earley

variable {α β : Type}

/-- A mapping succeeds with the images of all elements in order. -/
theorem mapM_eq_ok_iff_forall₂ {l : List α} {f : α → Except Fault β} {images : List β} :
    l.mapM f = .ok images ↔ List.Forall₂ (fun a b => f a = .ok b) l images := by
  induction l generalizing images with
  | nil =>
    constructor
    · intro h
      cases h
      exact .nil
    · intro h
      cases h
      rfl
  | cons a l ih =>
    rw [List.mapM_cons, bind_eq_ok_iff]
    constructor
    · rintro ⟨b, hb, h⟩
      obtain ⟨rest, hrest, h⟩ := bind_eq_ok_iff.1 h
      cases h
      exact .cons hb (ih.1 hrest)
    · intro h
      cases h with
      | cons hb hrest => exact ⟨_, hb, bind_eq_ok_iff.2 ⟨_, ih.2 hrest, rfl⟩⟩

/-- Partners for the elements of a list can be put in a list. -/
theorem exists_forall₂ {R : α → β → Prop} {l : List α} (h : ∀ a ∈ l, ∃ b, R a b) :
    ∃ images, List.Forall₂ R l images := by
  induction l with
  | nil => exact ⟨[], .nil⟩
  | cons a l ih =>
    obtain ⟨b, hb⟩ := h a List.mem_cons_self
    obtain ⟨images, himages⟩ := ih fun c hc => h c (List.mem_cons_of_mem a hc)
    exact ⟨b :: images, .cons hb himages⟩

theorem exists_mem_of_forall₂ {R : α → β → Prop} {l : List α} {images : List β} {b : β}
    (h : List.Forall₂ R l images) (hb : b ∈ images) : ∃ a ∈ l, R a b := by
  induction h with
  | nil => cases hb
  | cons hhead _ ih =>
    cases hb with
    | head => exact ⟨_, List.mem_cons_self, hhead⟩
    | tail _ hb =>
      obtain ⟨a, ha, hab⟩ := ih hb
      exact ⟨a, List.mem_cons_of_mem _ ha, hab⟩

theorem exists_partner_of_forall₂ {R : α → β → Prop} {l : List α} {images : List β} {a : α}
    (h : List.Forall₂ R l images) (ha : a ∈ l) : ∃ b ∈ images, R a b :=
  exists_mem_of_forall₂ h.flip ha

/-- Two lists of partners of the same elements are partners of each other. -/
theorem forall₂_of_common {γ : Type} {R : α → β → Prop} {S : α → γ → Prop} {l : List α}
    {images : List β} {others : List γ} (h : List.Forall₂ R l images) (h' : List.Forall₂ S l others) :
    List.Forall₂ (fun b c => ∃ a, R a b ∧ S a c) images others := by
  induction h generalizing others with
  | nil =>
    cases h'
    exact .nil
  | cons hab _ ih =>
    cases h' with
    | cons hac hrest => exact .cons ⟨_, hab, hac⟩ (ih hrest)

/-- The partners of a sublist are a sublist of the partners. -/
theorem exists_sublist_of_forall₂ {R : α → β → Prop} {l l' : List α} {images : List β}
    (hsublist : l'.Sublist l) (h : List.Forall₂ R l images) :
    ∃ others, List.Forall₂ R l' others ∧ others.Sublist images := by
  induction hsublist generalizing images with
  | slnil => exact ⟨images, h, .refl images⟩
  | cons a _ ih =>
    cases h with
    | cons _ hrest =>
      obtain ⟨others, hothers, hsublist⟩ := ih hrest
      exact ⟨others, hothers, hsublist.cons _⟩
  | cons_cons a _ ih =>
    cases h with
    | cons hhead hrest =>
      obtain ⟨others, hothers, hsublist⟩ := ih hrest
      exact ⟨_ :: others, .cons hhead hothers, hsublist.cons_cons _⟩

/-- Where partners tell elements apart, the partners of different elements are different. -/
theorem nodup_of_forall₂ {R : α → β → Prop} {l : List α} {images : List β}
    (hunique : Relator.LeftUnique R) (h : List.Forall₂ R l images) (hl : l.Nodup) : images.Nodup := by
  induction h with
  | nil => exact .nil
  | cons hhead hrest ih =>
    obtain ⟨hnew, hl⟩ := List.nodup_cons.1 hl
    refine List.nodup_cons.2 ⟨fun hb => ?_, ih hl⟩
    obtain ⟨a, ha, hab⟩ := exists_mem_of_forall₂ hrest hb
    exact hnew (hunique hhead hab ▸ ha)

/-- A list whose elements have partners of their own in another list is not longer than that. -/
theorem length_le_of_partners {R : α → β → Prop} {l : List α} {m : List β}
    (hunique : Relator.LeftUnique R) (hl : l.Nodup) (hpartners : ∀ a ∈ l, ∃ b, b ∈ m ∧ R a b) :
    l.length ≤ m.length := by
  obtain ⟨images, himages⟩ := exists_forall₂ hpartners
  have hnodup : images.Nodup := nodup_of_forall₂ hunique (himages.imp fun _ _ => And.right) hl
  have hsubset : images ⊆ m := by
    intro b hb
    obtain ⟨_, _, hmem, _⟩ := exists_mem_of_forall₂ himages hb
    exact hmem
  rw [himages.length_eq]
  exact (List.subperm_of_subset hnodup hsubset).length_le

/-- An element of two lists put together stands in one of them. -/
theorem append_cons_eq_append_cases {left right front back : List α} {a : α}
    (h : left ++ a :: right = front ++ back) :
    (∃ rest, front = left ++ a :: rest ∧ right = rest ++ back) ∨
    ∃ before, left = front ++ before ∧ back = before ++ a :: right := by
  obtain ⟨rest, rfl, hrest⟩ | hbehind := List.append_eq_append_iff.1 h
  · obtain ⟨rfl, rfl⟩ | ⟨rest, rfl, rfl⟩ := List.cons_eq_append_iff.1 hrest
    · exact .inr ⟨[], by simp, rfl⟩
    · exact .inl ⟨rest, rfl, rfl⟩
  · exact .inr hbehind

/-- A mapping by look-ups that find something is the plain list of what they find. -/
theorem mapM_eq_ok_filterMap {l : List α} {f : α → Except Fault β} {g : α → Option β}
    (h : ∀ a ∈ l, ∃ b, f a = .ok b ∧ g a = some b) : l.mapM f = .ok (l.filterMap g) := by
  induction l with
  | nil => rfl
  | cons a l ih =>
    obtain ⟨b, hf, hg⟩ := h a List.mem_cons_self
    have hrest := ih fun c hc => h c (List.mem_cons_of_mem a hc)
    rw [List.mapM_cons, hf, hrest, List.filterMap_cons_some hg]
    rfl

private theorem filterAuxM_eq_ok {l : List α} {p : α → Except Fault Bool} {q : α → Bool}
    (h : ∀ a ∈ l, p a = .ok (q a)) (kept : List α) :
    l.filterAuxM p kept = .ok ((l.filter q).reverse ++ kept) := by
  induction l generalizing kept with
  | nil => rfl
  | cons a l ih =>
    have hrest := ih (fun c hc => h c (List.mem_cons_of_mem a hc)) (cond (q a) (a :: kept) kept)
    have hhead := h a List.mem_cons_self
    unfold List.filterAuxM
    rw [hhead]
    refine hrest.trans ?_
    cases hq : q a <;> simp [hq]

/-- Filtering by tests that succeed keeps what the tests admit. -/
theorem filterM_eq_ok_filter {l : List α} {p : α → Except Fault Bool} {q : α → Bool}
    (h : ∀ a ∈ l, p a = .ok (q a)) : l.filterM p = .ok (l.filter q) := by
  unfold List.filterM
  rw [filterAuxM_eq_ok h, List.append_nil]
  simp only [bind, Except.bind, pure, Except.pure, List.reverse_reverse]

end Earley
