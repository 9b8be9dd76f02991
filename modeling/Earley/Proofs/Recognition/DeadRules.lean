import Earley.Proofs.Grammar.DeadRules
import Earley.Proofs.Recognition.Counterparts

/-!
# Recognitions without dead rules

Dead rules are predicted, and their items move on up to a nonterminal that heads no rule. So a chart has more
slots with them than without. But they are never finished: what an accepting item is made of stands also in
the chart without dead rules, and there are as many accepting items in the one chart as in the other.
-/

namespace Earley

variable {T N H Tok : Type} [DecidableEq N]

namespace Chart

variable {chart chart' : Chart} {renumber : RuleId → RuleId} {policy : AmbiguityPolicy}

/-- A slot is matched by one slot only. -/
theorem rightUnique_matches (hwf : chart.WellFormed) :
    Relator.RightUnique (chart.Matches chart' renumber) := by
  rintro slot slot' other' ⟨position, key, hslot, hslot'⟩ ⟨position', key', hother, hother'⟩
  obtain ⟨rfl, rfl⟩ := hwf.slotOf?_injective hslot hother
  exact Option.some.inj (hslot'.symm.trans hother')

/-- An item has one counterpart only. -/
theorem Counterpart.unique {item item' other' : Item}
    (h : chart.Counterpart chart' renumber policy item item')
    (h' : chart.Counterpart chart' renumber policy item other') (hwf : chart.WellFormed)
    (hwf' : chart'.WellFormed) (hplain : policy = .keepFirst → chart'.Plain)
    (hitem' : item' ∈ chart'.arena) (hother' : other' ∈ chart'.arena) : item' = other' := by
  have hkey := h.key_eq.trans h'.key_eq.symm
  have hstop := h.stop_eq.trans h'.stop_eq.symm
  cases policy with
  | merge =>
    have hunique : Relator.RightUnique (chart.Matches chart' renumber) := rightUnique_matches hwf
    exact Item.eq_of_key_eq hkey hstop (hunique.forall₂ (h.backpointers rfl) (h'.backpointers rfl))
  | keepFirst => exact (hplain rfl).eq_of_key_eq hwf' hitem' hother' hkey hstop

theorem rightUnique_namesCounterpart (hwf : chart.WellFormed) (hwf' : chart'.WellFormed)
    (hplain : policy = .keepFirst → chart'.Plain) :
    Relator.RightUnique (chart.NamesCounterpart chart' renumber policy) := by
  rintro id id' other' ⟨item, item', hitem, hitem', h⟩ ⟨found, found', hfound, hfound', h'⟩
  rw [hitem] at hfound
  cases hfound
  have hsame := h.unique h' hwf hwf' hplain (Array.mem_of_getElem? hitem')
    (Array.mem_of_getElem? hfound')
  exact hwf'.id_eq_of_item_eq hitem' (hsame ▸ hfound')

end Chart

namespace Recognition

variable [Terminal T Tok]

/-- Accepting items belong to rules that are not dead. -/
theorem Filled.exists_live_of_mem_acceptingIds {r : Recognition T N H Tok} {chart : Chart}
    (h : r.Filled chart) {id : ItemId} (hid : id ∈ chart.acceptingIds r.grammar) :
    ∃ rule ∈ r.grammar.liveRules, rule.head = r.grammar.start := by
  obtain ⟨_, rule, _, hrule, hhead, _, _, _, htiles⟩ := h.tiles_of_mem_acceptingIds hid
  obtain ⟨_, htrees⟩ := h.exists_spells_of_tiles htiles
  exact ⟨rule, Grammar.mem_liveRules_iff.2 ⟨Array.mem_of_getElem? hrule, htrees.isLive⟩, hhead⟩

/-- The first recognition is that of the same tokens by a grammar from which the dead rules have been left
    out. -/
structure Prunes (r r' : Recognition T N H Tok) (renumber : RuleId → RuleId) : Prop where
  embedsIn : r.EmbedsIn r' renumber
  prunesTo : r'.grammar.PrunesTo r.grammar
  exists_of_kept : ∀ {id rule}, r'.grammar.rules[id]? = some rule → rule ∈ r.grammar.rules →
    ∃ old, renumber old = id

namespace Prunes

variable {r r' : Recognition T N H Tok} {renumber : RuleId → RuleId} {chart chart' : Chart}
  (hprunes : r.Prunes r' renumber) (h : r.Filled chart) (h' : r'.Filled chart')
include hprunes h'

/-- A rule whose production tiles a stretch of the input is kept. -/
theorem exists_rule_of_tiles {id : RuleId} {rule : Rule T N H} {i k : Nat} {slots : List ItemId}
    (hrule : r'.grammar.rules[id]? = some rule)
    (htiles : chart'.Tiles r'.grammar r'.tokens rule.production i k slots) :
    ∃ old, renumber old = id ∧ r.grammar.rules[old]? = some rule := by
  obtain ⟨trees, htrees⟩ := h'.exists_spells_of_tiles htiles
  have hkept := hprunes.prunesTo.mem_rules (Array.mem_of_getElem? hrule) htrees
  obtain ⟨old, rfl⟩ := hprunes.exists_of_kept hrule hkept
  exact ⟨old, rfl, (hprunes.embedsIn.rule_eq old).symm.trans hrule⟩

/-- What tiles a stretch of the input derives it without dead rules. -/
theorem exists_spells_of_tiles {symbols : List (Symbol T N)} {i k : Nat} {slots : List ItemId}
    (htiles : chart'.Tiles r'.grammar r'.tokens symbols i k slots) :
    ∃ trees, r.grammar.Spells r.tokens symbols i k trees := by
  obtain ⟨trees, htrees⟩ := h'.exists_spells_of_tiles htiles
  rw [← hprunes.embedsIn.tokens_eq]
  exact hprunes.prunesTo.exists_spells htrees

include h

/-- A finished slot of a nonterminal that is wanted without dead rules is matched. -/
theorem exists_finishedSlot_of_wants {n : N} {i j : Nat} {slot' : ItemId}
    (hwants : r.grammar.Wants r.tokens i n) (hslot' : chart'.FinishedSlot r'.grammar n i j slot') :
    ∃ slot, chart.FinishedSlot r.grammar n i j slot ∧ chart.Matches chart' renumber slot slot' := by
  obtain ⟨hmem', item', hitem', horigin', hfinishes'⟩ := hslot'
  obtain ⟨rule, hrule', rfl, rfl, rfl, htiles⟩ :=
    h'.tiles_of_finishedSlot ⟨hmem', item', hitem', horigin', hfinishes'⟩ List.mem_cons_self hitem'
  obtain ⟨old, hold, hrule⟩ := hprunes.exists_rule_of_tiles h' hrule' htiles
  obtain ⟨found, hjustified⟩ := h'.justified (Array.mem_of_getElem? hitem')
  have hsame := hjustified.rule_eq
  rw [hrule'] at hsame
  cases hsame
  have hkey' : item'.key = ItemKey.renumber renumber ⟨old, rule.length, item'.origin⟩ := by
    rw [Item.key, ← hold, hjustified.dot_eq_length hfinishes']
    rfl
  have hstop := h'.stop_le (Array.mem_of_getElem? hitem')
  rw [hprunes.embedsIn.tokens_eq] at hstop
  have hvalid : r.grammar.ValidAt r.tokens item'.stop ⟨old, rule.length, item'.origin⟩ := by
    refine ⟨rule, hrule, Nat.le_refl _, hjustified.origin_le, hwants, ?_⟩
    rw [Rule.length, List.take_length]
    exact (Grammar.derivesStretch_iff_exists_spells hjustified.origin_le hstop).2
      (hprunes.exists_spells_of_tiles h' htiles)
  obtain ⟨slot, hmem, item, hitem, hkey⟩ := (h.hasSlot_iff_validAt hstop).2 hvalid
  have hslot := h.wellFormed.slotOf?_of_mem_slotsAt hmem hitem
  have hslot' := h'.wellFormed.slotOf?_of_mem_slotsAt hmem' hitem'
  rw [hkey] at hslot
  rw [hkey'] at hslot'
  exact ⟨slot, ⟨hmem, item, hitem, congrArg ItemKey.origin hkey, Item.finishes_of_key_eq hrule hkey⟩,
    item'.stop, _, hslot, hslot'⟩

/-- What tiles the rest of a production that is wanted without dead rules is matched, slot by slot: each
    nonterminal is wanted where the symbols before it end. -/
theorem exists_tiles_of_wants {rule : Rule T N H} {origin : Nat} (hrule : rule ∈ r.grammar.rules)
    (hwants : r.grammar.Wants r.tokens origin rule.head) (horigin : origin ≤ r.tokens.size)
    {before symbols : List (Symbol T N)}
    {i k : Nat} {slots' : List ItemId} {trees : List (RuleTree T)}
    (hproduction : rule.production = before ++ symbols)
    (hbefore : r.grammar.Spells r.tokens before origin i trees)
    (htiles : chart'.Tiles r'.grammar r'.tokens symbols i k slots') :
    ∃ slots, chart.Tiles r.grammar r.tokens symbols i k slots ∧
      List.Forall₂ (chart.Matches chart' renumber) slots slots' := by
  induction htiles generalizing before trees with
  | nil i => exact ⟨[], .nil i, .nil⟩
  | @terminal t symbols i k slots' hadmits _ ih =>
    rw [hprunes.embedsIn.tokens_eq] at hadmits
    have htoken : r.grammar.Spells r.tokens [.terminal t] i (i + 1) [.leaf t i] :=
      .terminal hadmits (.nil _)
    have hsplit : rule.production = (before ++ [.terminal t]) ++ symbols := by
      rw [hproduction, List.append_assoc, List.singleton_append]
    obtain ⟨slots, htiles, hslots⟩ := ih hsplit (hbefore.append htoken)
    exact ⟨slots, .terminal hadmits htiles, hslots⟩
  | @nonterminal n symbols i j k slot' slots' hslot' _ ih =>
    have hexpected : rule.production[before.length]? = some (.nonterminal n) := by
      rw [hproduction]
      simp
    have hstretch : r.grammar.DerivesStretch r.tokens (rule.production.take before.length) origin i := by
      rw [hproduction, List.take_left]
      exact (Grammar.derivesStretch_iff_exists_spells hbefore.le
        (hbefore.le_size horigin)).2 ⟨trees, hbefore⟩
    have hwanted := hwants.expected hrule hexpected hstretch hbefore.le
    obtain ⟨slot, hslot, hmatches⟩ := hprunes.exists_finishedSlot_of_wants h h' hwanted hslot'
    obtain ⟨tree, htree⟩ := h.exists_spells_of_finishedSlot hslot
    have hsplit : rule.production = (before ++ [.nonterminal n]) ++ symbols := by
      rw [hproduction, List.append_assoc, List.singleton_append]
    obtain ⟨slots, htiles, hslots⟩ := ih hsplit (hbefore.append htree)
    exact ⟨slot :: slots, .nonterminal hslot htiles, .cons hmatches hslots⟩

/-- Every accepting item is the counterpart of one in the chart without dead rules. -/
theorem exists_counterpart_of_accepting {id' : ItemId}
    (hid' : id' ∈ chart'.acceptingIds r'.grammar) :
    ∃ id ∈ chart.acceptingIds r.grammar, chart.NamesCounterpart chart' renumber r.policy id id' := by
  obtain ⟨item', rule, hitem', hrule', hhead, hdot, horigin, hstop, htiles⟩ :=
    h'.tiles_of_mem_acceptingIds hid'
  obtain ⟨old, hold, hrule⟩ := hprunes.exists_rule_of_tiles h' hrule' htiles
  rw [hprunes.embedsIn.start_eq] at hhead
  rw [hprunes.embedsIn.tokens_eq] at hstop
  have hwants : r.grammar.Wants r.tokens 0 rule.head := hhead ▸ Grammar.wants_start
  obtain ⟨slots, hslots, hmatches⟩ := hprunes.exists_tiles_of_wants h h'
    (Array.mem_of_getElem? hrule) hwants (Nat.zero_le _) (List.nil_append _).symm (.nil 0) htiles
  rw [hprunes.embedsIn.tokens_eq] at hslots
  have hrecords := h.records_of_start_tiles hrule hhead hslots
  obtain ⟨item, hmem, hkey, hend, hsame⟩ := hrecords.exists_mem
  obtain ⟨id, hitem⟩ := Array.mem_iff_getElem?.1 hmem
  refine ⟨id, h.mem_acceptingIds_iff.2 ?_, item, item', hitem, hitem', hmem, ?_,
    hstop.trans hend.symm, ?_⟩
  · exact ⟨item, hitem, congrArg ItemKey.origin hkey, hend,
      hhead ▸ Item.finishes_of_key_eq hrule hkey⟩
  · rw [hkey, Item.key, ← hold, hdot, horigin]
    rfl
  · intro hpolicy
    rw [hsame hpolicy]
    exact hmatches

/-- Without dead rules there are as many accepting items. -/
theorem length_acceptingIds_eq (hplain : r.policy = .keepFirst → chart.Plain)
    (hplain' : r.policy = .keepFirst → chart'.Plain) :
    (chart.acceptingIds r.grammar).length = (chart'.acceptingIds r'.grammar).length := by
  refine Nat.le_antisymm (hprunes.embedsIn.length_acceptingIds_le h h' hplain) ?_
  have hunique : Relator.LeftUnique fun id' id => chart.NamesCounterpart chart' renumber r.policy id id' :=
    fun _ _ _ hleft hright =>
      Chart.rightUnique_namesCounterpart h.wellFormed h'.wellFormed hplain' hleft hright
  exact length_le_of_partners hunique (Chart.nodup_acceptingIds h'.wellFormed) fun _ hid' =>
    hprunes.exists_counterpart_of_accepting h h' hid'

end Prunes

end Recognition

end Earley
