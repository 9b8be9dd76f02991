import Earley.Proofs.Chart.Erasure
import Earley.Proofs.Tree.Build

/-!
# Trees of a chart without its alternatives

The builder follows backpointers to slots only. A chart and the one that it erases to therefore show the
same trees at slots of the same place, and erasing alternatives leaves out trees without changing the
others.
-/

namespace Earley

variable {T N H : Type} [DecidableEq N] {g : Grammar T N H} {chart erased : Chart}

namespace Tree

theorem Fits.erase (h : chart.ErasesTo erased) {symbols : List (Symbol T N)}
    {pointers pointers' : List ItemId} {position : Nat} {children : List (Tree T N H)}
    (hfits : Fits g chart symbols pointers position children)
    (hpointers : List.Forall₂ (chart.SamePlace erased) pointers pointers') :
    Fits g erased symbols pointers' position children := by
  induction hfits generalizing pointers' with
  | nil => exact .nil _ _
  | terminal _ ih => exact .terminal (ih hpointers)
  | missing _ ih =>
    cases hpointers
    exact .missing (ih .nil)
  | child hitem hrule _ _ ihbelow ihrest =>
    cases hpointers with
    | cons hpointer hpointers =>
      obtain ⟨item, item', hfound, hitem', halike⟩ := h.namesAlike hpointer
      rw [hitem] at hfound
      cases hfound
      have hbelow := ihbelow halike.backpointers
      have hrest := ihrest hpointers
      rw [halike.rule_eq] at hrule
      rw [halike.stop_eq] at hrest ⊢
      rw [halike.origin_eq] at hbelow ⊢
      exact .child hitem' hrule hbelow hrest

theorem Shows.erase (h : chart.ErasesTo erased) {slot slot' : ItemId} {tree : Tree T N H}
    (hshows : Shows g chart slot tree) (hslot : chart.NamesAlike erased slot slot') :
    Shows g erased slot' tree := by
  obtain ⟨item, rule, children, hitem, hrule, hfits, rfl⟩ := hshows
  obtain ⟨_, item', hfound, hitem', halike⟩ := hslot
  rw [hitem] at hfound
  cases hfound
  have hfits' := hfits.erase h halike.backpointers
  rw [halike.rule_eq] at hrule
  rw [halike.origin_eq] at hfits' ⊢
  rw [halike.stop_eq]
  exact ⟨item', rule, children, hitem', hrule, hfits', rfl⟩

/-- An item has one tree. -/
theorem Shows.unique (hdescends : chart.Descends) {id : ItemId} {tree tree' : Tree T N H}
    (hshows : Shows g chart id tree) (hshows' : Shows g chart id tree') : tree = tree' := by
  have hbuild := build_eq_ok hdescends hshows
  rw [build_eq_ok hdescends hshows'] at hbuild
  cases hbuild
  rfl

end Tree

namespace Chart

/-- Where there are no alternatives, the accepting items are slots. -/
theorem acceptingIds_of_no_alternatives
    (hnone : ∀ position slot, chart.alternativesAt position slot = []) (g : Grammar T N H) :
    chart.acceptingIds g = (chart.slotsAt chart.inputLength).filter (chart.acceptsSlot g) := by
  unfold acceptingIds
  simp only [hnone]
  exact List.flatMap_singleton' _

/-- The accepting slots come among the accepting items in the same order. -/
theorem sublist_acceptingIds (chart : Chart) (g : Grammar T N H) :
    ((chart.slotsAt chart.inputLength).filter (chart.acceptsSlot g)).Sublist
      (chart.acceptingIds g) := by
  unfold acceptingIds
  induction (chart.slotsAt chart.inputLength).filter (chart.acceptsSlot g) with
  | nil => exact .refl _
  | cons slot slots ih =>
    rw [List.flatMap_cons, List.cons_append]
    exact (ih.trans (List.sublist_append_right _ _)).cons_cons slot

namespace ErasesTo

variable (h : chart.ErasesTo erased)
include h

theorem inputLength_eq : erased.inputLength = chart.inputLength := by
  rw [inputLength, inputLength, h.size_columns]

/-- Accepting slots stand at the same places. -/
theorem namesAlike_acceptingIds (g : Grammar T N H) :
    List.Forall₂ (chart.NamesAlike erased)
      ((chart.slotsAt chart.inputLength).filter (chart.acceptsSlot g)) (erased.acceptingIds g) := by
  rw [acceptingIds_of_no_alternatives h.no_alternatives, h.inputLength_eq]
  refine List.rel_filter ?_ (h.slots chart.inputLength)
  rintro slot slot' ⟨item, item', hitem, hitem', halike⟩
  refine (acceptsSlot_iff hitem).trans (.trans ?_ (acceptsSlot_iff hitem').symm)
  rw [halike.origin_eq]
  exact and_congr_right' ⟨fun hfinishes => hfinishes.of_key_eq halike.key_eq.symm,
    fun hfinishes => hfinishes.of_key_eq halike.key_eq⟩

/-- The trees that are left where alternatives are erased come in the same order. -/
theorem sublist_trees (hdescends : erased.Descends) {trees trees' : List (Tree T N H)}
    (htrees : List.Forall₂ (Tree.Shows g chart) (chart.acceptingIds g) trees)
    (htrees' : List.Forall₂ (Tree.Shows g erased) (erased.acceptingIds g) trees') :
    trees'.Sublist trees := by
  obtain ⟨found, hfound, hsublist⟩ :=
    exists_sublist_of_forall₂ (chart.sublist_acceptingIds g) htrees
  have hsame : List.Forall₂ (Tree.Shows g erased) (erased.acceptingIds g) found := by
    have hpairs := forall₂_of_common (h.namesAlike_acceptingIds g) hfound
    refine hpairs.imp ?_
    rintro slot' tree ⟨slot, halike, hshows⟩
    exact hshows.erase h halike
  have hunique : Relator.RightUnique (Tree.Shows g erased) := fun _ _ _ hshows hshows' =>
    hshows.unique hdescends hshows'
  rw [List.right_unique_forall₂' hunique htrees' hsame]
  exact hsublist

end ErasesTo

end Chart

end Earley
