import Mathlib.Logic.Relator
import Earley.Proofs.Chart.Columns
import Earley.Proofs.Grammar.Embedding
import Earley.Proofs.Recognition.Plain
import Earley.Proofs.Recognition.Validity

/-!
# Counterparts

Where a grammar is embedded in another one, every slot of a filled chart has a counterpart in the filled
chart of the other grammar, and so does every item: where derivations are merged, because what tiles the
input in the one chart tiles it in the other; where first derivations are kept, because an item is nothing
but its key. Different items have different counterparts, so the other chart has no fewer of them. The ids
of counterparts need not agree.
-/

namespace Earley

namespace Chart

/-- The two slots have the same position, and keys that correspond. -/
def Matches (chart chart' : Chart) (renumber : RuleId → RuleId) (slot slot' : ItemId) : Prop :=
  ∃ position key, chart.slotOf? position key = some slot ∧
    chart'.slotOf? position (key.renumber renumber) = some slot'

/-- The other item has the same position and a key that corresponds, and where derivations are merged also
    backpointers that correspond. -/
structure Counterpart (chart chart' : Chart) (renumber : RuleId → RuleId) (policy : AmbiguityPolicy)
    (item item' : Item) : Prop where
  mem : item ∈ chart.arena
  key_eq : item'.key = item.key.renumber renumber
  stop_eq : item'.stop = item.stop
  backpointers : policy = .merge →
    List.Forall₂ (chart.Matches chart' renumber) item.backpointers item'.backpointers

variable {chart chart' : Chart} {renumber : RuleId → RuleId} {policy : AmbiguityPolicy}

/-- A slot is matched with one slot only. -/
theorem leftUnique_matches (hinjective : Function.Injective renumber) (hwf' : chart'.WellFormed) :
    Relator.LeftUnique (chart.Matches chart' renumber) := by
  rintro slot other slot' ⟨position, key, hslot, hslot'⟩ ⟨position', key', hother, hother'⟩
  obtain ⟨rfl, hkey⟩ := hwf'.slotOf?_injective hslot' hother'
  obtain rfl := ItemKey.renumber_injective hinjective hkey
  exact Option.some.inj (hslot.symm.trans hother)

/-- An item is the counterpart of one item only. -/
theorem leftUnique_counterpart (hinjective : Function.Injective renumber) (hwf : chart.WellFormed)
    (hwf' : chart'.WellFormed) (hplain : policy = .keepFirst → chart.Plain) :
    Relator.LeftUnique (chart.Counterpart chart' renumber policy) := by
  intro item other item' h h'
  have hkey := ItemKey.renumber_injective hinjective (h.key_eq.symm.trans h'.key_eq)
  have hstop := h.stop_eq.symm.trans h'.stop_eq
  cases policy with
  | merge =>
    have hunique : Relator.LeftUnique (chart.Matches chart' renumber) :=
      leftUnique_matches hinjective hwf'
    exact Item.eq_of_key_eq hkey hstop (hunique.forall₂ (h.backpointers rfl) (h'.backpointers rfl))
  | keepFirst => exact (hplain rfl).eq_of_key_eq hwf h.mem h'.mem hkey hstop

/-- The ids name an item and a counterpart of it. -/
def NamesCounterpart (chart chart' : Chart) (renumber : RuleId → RuleId) (policy : AmbiguityPolicy)
    (id id' : ItemId) : Prop :=
  ∃ item item', chart.arena[id]? = some item ∧ chart'.arena[id']? = some item' ∧
    chart.Counterpart chart' renumber policy item item'

theorem leftUnique_namesCounterpart (hinjective : Function.Injective renumber)
    (hwf : chart.WellFormed) (hwf' : chart'.WellFormed) (hplain : policy = .keepFirst → chart.Plain) :
    Relator.LeftUnique (chart.NamesCounterpart chart' renumber policy) := by
  rintro id other id' ⟨item, item', hitem, hitem', h⟩ ⟨found, found', hfound, hfound', h'⟩
  rw [hitem'] at hfound'
  cases hfound'
  have hsame := leftUnique_counterpart hinjective hwf hwf' hplain h h'
  exact hwf.id_eq_of_item_eq hitem (hsame ▸ hfound)

end Chart

namespace Recognition

variable {T N H Tok : Type} [DecidableEq N]

/-- The other recognition is that of the same tokens by a grammar in which the grammar is embedded. -/
structure EmbedsIn (r r' : Recognition T N H Tok) (renumber : RuleId → RuleId) : Prop
    extends r.grammar.EmbedsIn r'.grammar renumber where
  tokens_eq : r'.tokens = r.tokens
  policy_eq : r'.policy = r.policy

namespace EmbedsIn

variable [Terminal T Tok] {r r' : Recognition T N H Tok} {renumber : RuleId → RuleId}
  {chart chart' : Chart} (hembeds : r.EmbedsIn r' renumber) (h : r.Filled chart)
  (h' : r'.Filled chart')
include hembeds h h'

/-- The other chart has slots for the same keys, under other numbers. -/
theorem renumber_mem_keysAt {position : Nat} {key : ItemKey} (hkey : key ∈ chart.keysAt position) :
    key.renumber renumber ∈ chart'.keysAt position := by
  have hslot : chart.HasSlot position key := Chart.mem_keysAt_iff.1 hkey
  have hposition : position ≤ r.tokens.size := by
    obtain ⟨slot, hmem, _⟩ := hslot
    have hlt := Chart.lt_of_mem_slotsAt hmem
    rw [h.size_columns] at hlt
    exact Nat.le_of_lt_succ hlt
  have hvalid := hembeds.validAt ((h.hasSlot_iff_validAt hposition).1 hslot)
  rw [← hembeds.tokens_eq] at hposition hvalid
  exact Chart.mem_keysAt_iff.2 ((h'.hasSlot_iff_validAt hposition).2 hvalid)

theorem exists_matches {position : Nat} {key : ItemKey} {slot : ItemId}
    (hslot : chart.slotOf? position key = some slot) :
    ∃ slot', chart'.slotOf? position (key.renumber renumber) = some slot' ∧
      chart.Matches chart' renumber slot slot' := by
  obtain ⟨hmem, item, hitem, rfl⟩ := h.wellFormed.slot_key hslot
  have hkey := hembeds.renumber_mem_keysAt h h' (Chart.mem_keysAt_iff.2 ⟨slot, hmem, item, hitem, rfl⟩)
  obtain ⟨slot', hslot'⟩ := Option.ne_none_iff_exists'.1
    (mt h'.wellFormed.slotOf?_eq_none_iff_not_mem_keysAt.1 (not_not_intro hkey))
  exact ⟨slot', hslot', position, item.key, hslot, hslot'⟩

theorem exists_finishedSlot {n : N} {i j : Nat} {slot : ItemId}
    (hslot : chart.FinishedSlot r.grammar n i j slot) :
    ∃ slot', chart'.FinishedSlot r'.grammar n i j slot' ∧ chart.Matches chart' renumber slot slot' := by
  obtain ⟨hmem, item, hitem, horigin, hfinishes⟩ := hslot
  obtain ⟨slot', hslot', hmatches⟩ :=
    hembeds.exists_matches h h' (h.wellFormed.slotOf?_of_mem_slotsAt hmem hitem)
  obtain ⟨hmem', item', hitem', hkey'⟩ := h'.wellFormed.slot_key hslot'
  have horigin' : item'.origin = item.origin := congrArg ItemKey.origin hkey'
  have hfinishes' := (hembeds.finishes_iff.2 hfinishes).of_key_eq hkey'
  exact ⟨slot', ⟨hmem', item', hitem', horigin'.trans horigin, hfinishes'⟩, hmatches⟩

/-- What tiles the input in the one chart tiles it in the other. -/
theorem exists_tiles {symbols : List (Symbol T N)} {i k : Nat} {slots : List ItemId}
    (htiles : chart.Tiles r.grammar r.tokens symbols i k slots) :
    ∃ slots', chart'.Tiles r'.grammar r'.tokens symbols i k slots' ∧
      List.Forall₂ (chart.Matches chart' renumber) slots slots' := by
  induction htiles with
  | nil i => exact ⟨[], .nil i, .nil⟩
  | terminal hadmits _ ih =>
    obtain ⟨slots', htiles', hslots⟩ := ih
    exact ⟨slots', .terminal (hembeds.tokens_eq ▸ hadmits) htiles', hslots⟩
  | nonterminal hslot _ ih =>
    obtain ⟨slots', htiles', hslots⟩ := ih
    obtain ⟨slot', hslot', hmatches⟩ := hembeds.exists_finishedSlot h h' hslot
    exact ⟨slot' :: slots', .nonterminal hslot' htiles', .cons hmatches hslots⟩

/-- Every item of the one chart has a counterpart in the other. -/
theorem exists_counterpart {item : Item} (hitem : item ∈ chart.arena) :
    ∃ item', item' ∈ chart'.arena ∧ chart.Counterpart chart' renumber r.policy item item' := by
  obtain ⟨rule, hjustified⟩ := h.justified hitem
  have hrule := (hembeds.rule_eq item.rule).trans hjustified.rule_eq
  have hpredicted := h.hasSlot_iff_predicted_mem.2 (hjustified.predicted_mem hitem)
  have hkey := hembeds.renumber_mem_keysAt h h' (Chart.mem_keysAt_iff.2 hpredicted)
  have hpredicted' := h'.hasSlot_iff_predicted_mem.1 (Chart.mem_keysAt_iff.1 hkey)
  obtain ⟨slots', htiles', hslots⟩ := hembeds.exists_tiles h h' hjustified.tiles
  have hrecords := h'.records_of_tiles hrule hpredicted' hjustified.dot_le htiles'
  rw [hembeds.policy_eq] at hrecords
  obtain ⟨item', hitem', hkey', hstop', hsame⟩ := hrecords.exists_mem
  exact ⟨item', hitem', hitem, hkey', hstop', fun hpolicy => hsame hpolicy ▸ hslots⟩

variable (hplain : r.policy = .keepFirst → chart.Plain)
include hplain

theorem size_arena_le : chart.arena.size ≤ chart'.arena.size := by
  have hunique : Relator.LeftUnique (chart.Counterpart chart' renumber r.policy) :=
    Chart.leftUnique_counterpart hembeds.injective h.wellFormed h'.wellFormed hplain
  rw [← Array.length_toList, ← Array.length_toList]
  refine length_le_of_partners hunique h.wellFormed.arena_nodup fun item hitem => ?_
  obtain ⟨item', hitem', hcounterpart⟩ :=
    hembeds.exists_counterpart h h' (Array.mem_toList_iff.1 hitem)
  exact ⟨item', Array.mem_toList_iff.2 hitem', hcounterpart⟩

/-- The other chart has no fewer accepting items. -/
theorem length_acceptingIds_le :
    (chart.acceptingIds r.grammar).length ≤ (chart'.acceptingIds r'.grammar).length := by
  have hunique : Relator.LeftUnique (chart.NamesCounterpart chart' renumber r.policy) :=
    Chart.leftUnique_namesCounterpart hembeds.injective h.wellFormed h'.wellFormed hplain
  refine length_le_of_partners hunique (Chart.nodup_acceptingIds h.wellFormed) fun id hid => ?_
  obtain ⟨item, hitem, horigin, hstop, hfinishes⟩ := h.mem_acceptingIds_iff.1 hid
  obtain ⟨item', hmem', hcounterpart⟩ :=
    hembeds.exists_counterpart h h' (Array.mem_of_getElem? hitem)
  obtain ⟨id', hitem'⟩ := Array.mem_iff_getElem?.1 hmem'
  have horigin' : item'.origin = item.origin := congrArg ItemKey.origin hcounterpart.key_eq
  have hfinishes' := (hembeds.finishes_iff.2 hfinishes).of_key_eq hcounterpart.key_eq
  rw [← hembeds.start_eq] at hfinishes'
  rw [← hembeds.tokens_eq] at hstop
  refine ⟨id', h'.mem_acceptingIds_iff.2 ?_, item, item', hitem, hitem', hcounterpart⟩
  exact ⟨item', hitem', horigin'.trans horigin, hcounterpart.stop_eq.trans hstop, hfinishes'⟩

end EmbedsIn

end Recognition

end Earley
