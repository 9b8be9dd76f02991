import Earley.Proofs.Recognition.Trees
import Earley.Proofs.Recognition.Validity
import Earley.Proofs.Tree.Erasure

/-!
# Charts of first derivations

Where no slot has alternatives, each start rule has at most one accepting item. It has one if and only if
its production derives the whole input.
-/

namespace Earley

variable {T N H Tok : Type} [DecidableEq N]

namespace Chart

/-- The slot is that of the rule's finished item over the first `length` tokens. -/
def Completes (chart : Chart) (g : Grammar T N H) (length : Nat) (slot : ItemId) (id : RuleId) :
    Prop :=
  ∃ rule, g.rules[id]? = some rule ∧ chart.slotOf? length ⟨id, rule.length, 0⟩ = some slot

/-- Slots and the rules that they complete determine each other. -/
theorem biUnique_completes {chart : Chart} (hwf : chart.WellFormed) (g : Grammar T N H)
    (length : Nat) : Relator.BiUnique (chart.Completes g length) := by
  constructor
  · rintro slot slot' id ⟨rule, hrule, hslot⟩ ⟨rule', hrule', hslot'⟩
    rw [hrule] at hrule'
    cases hrule'
    rw [hslot] at hslot'
    cases hslot'
    rfl
  · rintro slot id id' ⟨rule, _, hslot⟩ ⟨rule', _, hslot'⟩
    obtain ⟨_, item, hitem, hkey⟩ := hwf.slot_key hslot
    obtain ⟨_, item', hitem', hkey'⟩ := hwf.slot_key hslot'
    rw [hitem] at hitem'
    cases hitem'
    exact congrArg ItemKey.rule (hkey.symm.trans hkey')

end Chart

namespace Recognition.Filled

variable [Terminal T Tok] {r : Recognition T N H Tok} {chart : Chart} (h : r.Filled chart)
include h

/-- A start rule whose production derives the whole input is completed. -/
theorem exists_completes_of_derivesStretch {id : RuleId} {rule : Rule T N H}
    (hrule : r.grammar.rules[id]? = some rule) (hhead : rule.head = r.grammar.start)
    (hderives : r.grammar.DerivesStretch r.tokens rule.production 0 r.tokens.size) :
    ∃ slot ∈ chart.acceptingIds r.grammar,
      chart.Completes r.grammar r.tokens.size slot id := by
  have hvalid : r.grammar.ValidAt r.tokens r.tokens.size ⟨id, rule.length, 0⟩ := by
    refine ⟨rule, hrule, Nat.le_refl _, Nat.zero_le _, hhead ▸ Grammar.wants_start, ?_⟩
    rwa [Rule.length, List.take_length]
  obtain ⟨slot, hslot, item, hitem, hkey⟩ := (h.hasSlot_iff_validAt (Nat.le_refl _)).2 hvalid
  have hstop := h.wellFormed.stop_of_mem_slotsAt hslot hitem
  have hslotOf := h.wellFormed.slotOf?_of_mem_slotsAt hslot hitem
  rw [hkey] at hslotOf
  have hfinishes := Item.finishes_of_key_eq hrule hkey
  rw [hhead] at hfinishes
  have horigin : item.origin = 0 := congrArg ItemKey.origin hkey
  exact ⟨slot, h.mem_acceptingIds_iff.2 ⟨item, hitem, horigin, hstop, hfinishes⟩, rule, hrule, hslotOf⟩

/-- The tree of a slot that completes a rule uses that rule at its root. -/
theorem uses_of_completes {slot : ItemId} {id : RuleId} {tree : Tree T N H}
    (hcompletes : chart.Completes r.grammar r.tokens.size slot id)
    (hshows : Tree.Shows r.grammar chart slot tree) :
    ∃ rule, r.grammar.rules[id]? = some rule ∧ tree.Uses rule := by
  obtain ⟨rule, hrule, hslot⟩ := hcompletes
  obtain ⟨_, item, hitem, hkey⟩ := h.wellFormed.slot_key hslot
  obtain ⟨_, found, children, hfound, hfoundRule, hfits, rfl⟩ := hshows
  rw [hitem] at hfound
  cases hfound
  obtain ⟨_, hjustified⟩ := h.justified (Array.mem_of_getElem? hitem)
  have htiles := hjustified.tiles_production (Item.finishes_of_key_eq hrule hkey)
  have hitemRule : item.rule = id := congrArg ItemKey.rule hkey
  have hsame := hjustified.rule_eq
  rw [hitemRule, hrule] at hsame hfoundRule
  cases hsame
  cases hfoundRule
  exact ⟨rule, hrule, rfl, (h.derive_of_fits hfits htiles).labels_eq, rfl, rfl⟩

variable (hnone : ∀ position slot, chart.alternativesAt position slot = [])
include hnone

/-- An accepting item completes a start rule whose production derives the whole input. -/
theorem exists_completes_of_mem_acceptingIds {slot : ItemId}
    (hslot : slot ∈ chart.acceptingIds r.grammar) :
    ∃ id rule, chart.Completes r.grammar r.tokens.size slot id ∧
      r.grammar.rules[id]? = some rule ∧ rule.head = r.grammar.start ∧
      r.grammar.DerivesStretch r.tokens rule.production 0 r.tokens.size := by
  obtain ⟨item, rule, hitem, hrule, hhead, hdot, horigin, hstop, _⟩ :=
    h.tiles_of_mem_acceptingIds hslot
  have hderives := h.derivesStretch_of_mem (Array.mem_of_getElem? hitem) hrule
  rw [hdot, Rule.length, List.take_length, horigin, hstop] at hderives
  rw [Chart.acceptingIds_of_no_alternatives hnone] at hslot
  have hmem := List.mem_of_mem_filter hslot
  have hend := h.wellFormed.stop_of_mem_slotsAt hmem hitem
  have hslotOf := h.wellFormed.slotOf?_of_mem_slotsAt hmem hitem
  rw [← hend, hstop, Item.key, hdot, horigin] at hslotOf
  exact ⟨item.rule, rule, ⟨rule, hrule, hslotOf⟩, hrule, hhead, hderives⟩

/-- The accepting items belong to the start rules whose production derives the whole input, one to
    each. -/
theorem exists_completed_rules :
    ∃ rules, List.Forall₂ (chart.Completes r.grammar r.tokens.size)
        (chart.acceptingIds r.grammar) rules ∧
      rules.Nodup ∧ ∀ id, id ∈ rules ↔ ∃ rule, r.grammar.rules[id]? = some rule ∧
        rule.head = r.grammar.start ∧
        r.grammar.DerivesStretch r.tokens rule.production 0 r.tokens.size := by
  have hunique := Chart.biUnique_completes h.wellFormed r.grammar r.tokens.size
  obtain ⟨rules, hrules⟩ := exists_forall₂ fun slot hslot =>
    (h.exists_completes_of_mem_acceptingIds hnone hslot).imp fun _ ⟨_, hcompletes, _⟩ => hcompletes
  refine ⟨rules, hrules, ?_, fun id => ⟨fun hid => ?_, ?_⟩⟩
  · exact (List.rel_nodup hunique hrules).1 (Chart.nodup_acceptingIds h.wellFormed)
  · obtain ⟨slot, hslot, hcompletes⟩ := exists_mem_of_forall₂ hrules hid
    obtain ⟨found, rule, hfound, hrule⟩ := h.exists_completes_of_mem_acceptingIds hnone hslot
    rw [hunique.2 hcompletes hfound]
    exact ⟨rule, hrule⟩
  · rintro ⟨rule, hrule, hhead, hderives⟩
    obtain ⟨slot, hslot, hcompletes⟩ := h.exists_completes_of_derivesStretch hrule hhead hderives
    exact (List.rel_mem hunique hcompletes hrules).1 hslot

end Recognition.Filled

end Earley
