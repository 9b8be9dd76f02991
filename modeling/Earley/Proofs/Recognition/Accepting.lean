import Mathlib.Data.Set.Finite.Lattice
import Mathlib.Data.Set.Finite.List
import Earley.Proofs.Chart.Accepting
import Earley.Proofs.Recognition.Forest

/-!
# Accepting items and derivations of the input

The accepting items of a filled chart tile the whole input with the production of a start rule. There
is one if and only if the grammar derives the input; where derivations are merged, what they unfold to
are all the derivation trees.
-/

namespace Earley.Recognition.Filled

variable {T N H Tok : Type} [DecidableEq N] [Terminal T Tok] {r : Recognition T N H Tok}
  {chart : Chart} (h : r.Filled chart)
include h

theorem inputLength_eq : chart.inputLength = r.tokens.size := by
  rw [Chart.inputLength, h.size_columns, Nat.add_sub_cancel]

theorem accepting_eq_ok : chart.accepting r.grammar = .ok (chart.acceptingIds r.grammar) := by
  have hsize : 0 < chart.columns.size := by
    rw [h.size_columns]
    omega
  exact Chart.accepting_eq_ok h.wellFormed h.ruled hsize

/-- The accepting items are the finished items of start rules that cover the whole input. -/
theorem mem_acceptingIds_iff {id : ItemId} :
    id ∈ chart.acceptingIds r.grammar ↔ ∃ item, chart.arena[id]? = some item ∧ item.origin = 0 ∧
      item.stop = r.tokens.size ∧ item.Finishes r.grammar r.grammar.start := by
  rw [Chart.mem_acceptingIds_iff h.wellFormed, h.inputLength_eq]

/-- They belong to start rules whose production tiles the whole input. -/
theorem tiles_of_mem_acceptingIds {id : ItemId} (hid : id ∈ chart.acceptingIds r.grammar) :
    ∃ item rule, chart.arena[id]? = some item ∧ r.grammar.rules[item.rule]? = some rule ∧
      rule.head = r.grammar.start ∧ item.dot = rule.length ∧ item.origin = 0 ∧
      item.stop = r.tokens.size ∧
      chart.Tiles r.grammar r.tokens rule.production 0 r.tokens.size item.backpointers := by
  obtain ⟨item, hitem, horigin, hstop, hfinishes⟩ := h.mem_acceptingIds_iff.1 hid
  obtain ⟨rule, hjustified⟩ := h.justified (Array.mem_of_getElem? hitem)
  have hdot := hjustified.dot_eq_length hfinishes
  have htiles := hjustified.tiles_production hfinishes
  rw [horigin, hstop] at htiles
  obtain ⟨_, hrule, hhead, _⟩ := hfinishes
  rw [hjustified.rule_eq] at hrule
  cases hrule
  exact ⟨item, rule, hitem, hjustified.rule_eq, hhead, hdot, horigin, hstop, htiles⟩

/-- Every derivation of the input is recorded as an item of its rule. -/
theorem exists_records_of_isDerivation {tree : RuleTree T}
    (hderivation : r.grammar.IsDerivation r.tokens tree) :
    ∃ id rule slots children, r.grammar.rules[id]? = some rule ∧ rule.head = r.grammar.start ∧
      chart.Records r.policy ⟨id, rule.length, 0, r.tokens.size, slots⟩ ∧
      tree = .node id children ∧
      (r.policy = .merge → chart.UnfoldsTo r.grammar rule.production 0 slots children) := by
  cases hderivation with
  | @nonterminal _ id rule _ _ _ _ children _ hrule hhead hchildren hrest =>
    cases hrest
    have hstart : id ∈ r.grammar.startRules := (Grammar.mem_rulesFor_iff _).2 ⟨rule, hrule, hhead⟩
    obtain ⟨slots, hrecords, _, hunfolds⟩ :=
      h.exists_records_of_spells hchildren hrule (List.append_nil _).symm (h.start hstart)
    rw [Nat.zero_add, List.nil_append] at hrecords
    exact ⟨id, rule, slots, children, hrule, hhead, hrecords, rfl, hunfolds⟩

/-- Some item accepts if and only if the grammar derives the input. -/
theorem acceptingIds_ne_nil_iff :
    chart.acceptingIds r.grammar ≠ [] ↔ r.grammar.DerivesTokens r.tokens := by
  rw [Grammar.derivesTokens_iff_exists_isDerivation]
  constructor
  · intro hne
    obtain ⟨id, hid⟩ := List.exists_mem_of_ne_nil _ hne
    obtain ⟨item, rule, _, hrule, hhead, _, _, _, htiles⟩ := h.tiles_of_mem_acceptingIds hid
    obtain ⟨children, hchildren⟩ := h.exists_spells_of_tiles htiles
    exact ⟨.node item.rule children, .nonterminal hrule hhead hchildren (.nil _)⟩
  · rintro ⟨tree, htree⟩
    obtain ⟨_, rule, _, _, hrule, hhead, hrecords, _⟩ := h.exists_records_of_isDerivation htree
    obtain ⟨slot, ⟨hslot, first, hfirst, horigin, hfinishes⟩, _⟩ :=
      h.exists_finishedSlot_of_records hrecords ⟨rule, hrule, hhead, Nat.le_refl _⟩
    have hstop := h.wellFormed.stop_of_mem_slotsAt hslot hfirst
    exact List.ne_nil_of_mem
      (h.mem_acceptingIds_iff.2 ⟨first, hfirst, horigin, hstop, hfinishes⟩)

/-- Where derivations are merged, the accepting items unfold to the derivation trees of the input. -/
theorem isDerivation_iff_unfolds (hpolicy : r.policy = .merge) {tree : RuleTree T} :
    r.grammar.IsDerivation r.tokens tree ↔
      ∃ id ∈ chart.acceptingIds r.grammar, chart.Unfolds r.grammar id tree := by
  constructor
  · intro htree
    obtain ⟨_, rule, slots, children, hrule, hhead, hrecords, rfl, hunfolds⟩ :=
      h.exists_records_of_isDerivation htree
    rw [hpolicy] at hrecords
    obtain ⟨id, hid⟩ := Array.mem_iff_getElem?.1 hrecords
    refine ⟨id, h.mem_acceptingIds_iff.2 ⟨_, hid, rfl, rfl, rule, hrule, hhead, Nat.le_refl _⟩, ?_⟩
    exact ⟨_, rule, children, Chart.item_eq_ok_iff.2 hid, Grammar.rule_eq_ok_iff.2 hrule,
      hunfolds hpolicy, rfl⟩
  · rintro ⟨id, hid, item, rule, children, hitem, hrule, hunfolds, rfl⟩
    obtain ⟨found, rule', hfound, hrule', hhead, _, horigin, _, htiles⟩ :=
      h.tiles_of_mem_acceptingIds hid
    rw [Chart.item_eq_ok_iff, hfound] at hitem
    cases hitem
    rw [Grammar.rule_eq_ok_iff, hrule'] at hrule
    cases hrule
    rw [horigin] at hunfolds
    exact .nonterminal hrule' hhead (h.spells_of_unfoldsTo hunfolds htiles) (.nil _)

/-- Where an input has infinitely many derivation trees, one of the accepting items unfolds to
    infinitely many. -/
theorem exists_infinite_unfolds (hpolicy : r.policy = .merge)
    (hinfinite : {tree | r.grammar.IsDerivation r.tokens tree}.Infinite) :
    ∃ id ∈ chart.acceptingIds r.grammar, {tree | chart.Unfolds r.grammar id tree}.Infinite := by
  by_contra hnone
  have hfinite : (⋃ id ∈ {id | id ∈ chart.acceptingIds r.grammar},
      {tree | chart.Unfolds r.grammar id tree}).Finite := by
    apply (List.finite_toSet _).biUnion
    intro id hid
    by_contra hid'
    exact hnone ⟨id, hid, hid'⟩
  apply hinfinite
  apply hfinite.subset
  intro tree htree
  obtain ⟨id, hid, hunfolds⟩ := (h.isDerivation_iff_unfolds hpolicy).1 htree
  exact Set.mem_biUnion hid hunfolds

end Earley.Recognition.Filled
