import Earley.Proofs.Chart.Unfold
import Earley.Proofs.Recognition.Recorded

/-!
# Filled charts as packed forests

The tilings of a filled chart and the derivations of the grammar agree. A tiling unfolds to forests
that spell out its symbols, and of these there is at least one. Conversely a forest that spells out
what follows an item leads over a tiling to a later item; where derivations are merged, that tiling
unfolds to the forest itself.
-/

namespace Earley

/-- A tiling is spelled out by some forest if each of its slots is. -/
theorem Chart.Tiles.exists_spells {T N H Tok : Type} [DecidableEq N] [Terminal T Tok] {chart : Chart}
    {g : Grammar T N H} {tokens : Array Tok} {symbols : List (Symbol T N)} {i k : Nat}
    {slots : List ItemId} (h : chart.Tiles g tokens symbols i k slots)
    (hslots : ∀ slot ∈ slots, ∀ {i j : Nat} {n : N}, chart.FinishedSlot g n i j slot →
      ∃ tree, g.Spells tokens [.nonterminal n] i j [tree]) :
    ∃ trees, g.Spells tokens symbols i k trees := by
  induction h with
  | nil i => exact ⟨[], .nil i⟩
  | terminal hadmits _ ih =>
    obtain ⟨trees, htrees⟩ := ih hslots
    exact ⟨_, .terminal hadmits htrees⟩
  | nonterminal hslot _ ih =>
    obtain ⟨tree, htree⟩ := hslots _ List.mem_cons_self hslot
    obtain ⟨trees, htrees⟩ := ih fun slot hmem => hslots slot (List.mem_cons_of_mem _ hmem)
    exact ⟨_, htree.append htrees⟩

namespace Recognition.Filled

variable {T N H Tok : Type} [DecidableEq N] [Terminal T Tok] {r : Recognition T N H Tok}
  {chart : Chart} {symbols : List (Symbol T N)} {i j k : Nat} {slots : List ItemId}
  {trees : List (RuleTree T)} (h : r.Filled chart)
include h

/-- The derivations of a finished slot are items of a rule of the same head, whose production tiles
    the same stretch of the input. -/
theorem tiles_of_finishedSlot {n : N} {slot id : ItemId} {item : Item}
    (hslot : chart.FinishedSlot r.grammar n i j slot)
    (hid : id ∈ slot :: chart.alternativesAt j slot) (hitem : chart.arena[id]? = some item) :
    ∃ rule, r.grammar.rules[item.rule]? = some rule ∧ rule.head = n ∧ item.origin = i ∧
      item.stop = j ∧ chart.Tiles r.grammar r.tokens rule.production i j item.backpointers := by
  obtain ⟨hmem, first, hfirst, horigin, hfinishes⟩ := hslot
  obtain ⟨found, hfound, rfl, hkey⟩ := (h.wellFormed.mem_derivations_iff hmem hfirst).1 hid
  rw [hfound] at hitem
  cases hitem
  have hfinishes := hfinishes.of_key_eq hkey
  obtain ⟨rule, hjustified⟩ := h.justified (Array.mem_of_getElem? hfound)
  have htiles := hjustified.tiles_production hfinishes
  obtain ⟨_, hrule, hhead, _⟩ := hfinishes
  rw [hjustified.rule_eq] at hrule
  cases hrule
  have hsame : item.origin = first.origin := congrArg ItemKey.origin hkey
  rw [hsame, horigin] at htiles
  exact ⟨rule, hjustified.rule_eq, hhead, hsame.trans horigin, rfl, htiles⟩

/-- What a tiling unfolds to spells out its symbols. -/
theorem spells_of_unfoldsTo (hunfolds : chart.UnfoldsTo r.grammar symbols i slots trees)
    (htiles : chart.Tiles r.grammar r.tokens symbols i k slots) :
    r.grammar.Spells r.tokens symbols i k trees := by
  induction hunfolds generalizing k with
  | nil =>
    cases htiles
    exact .nil _
  | terminal _ ih =>
    cases htiles with
    | terminal hadmits hrest => exact .terminal hadmits (ih hrest)
  | nonterminal hderivations hid hitem hrule _ _ ihchildren ihrest =>
    cases htiles with
    | nonterminal hslot hrest =>
      rw [h.wellFormed.derivations_eq_ok hslot.1] at hderivations
      cases hderivations
      obtain ⟨_, hrules, hhead, rfl, rfl, hproduction⟩ :=
        h.tiles_of_finishedSlot hslot hid (Chart.item_eq_ok_iff.1 hitem)
      rw [Grammar.rule_eq_ok_iff, hrules] at hrule
      cases hrule
      exact .nonterminal hrules hhead (ihchildren hproduction) (ihrest hrest)

/-- A finished slot of a nonterminal is spelled out by some tree. -/
theorem exists_spells_of_finishedSlot {n : N} {slot : ItemId}
    (hslot : chart.FinishedSlot r.grammar n i j slot) :
    ∃ tree, r.grammar.Spells r.tokens [.nonterminal n] i j [tree] := by
  induction slot using Nat.strongRecOn generalizing n i j with
  | ind slot ih =>
    obtain ⟨hmem, first, hfirst, hfinishes⟩ := hslot
    obtain ⟨_, hrule, hhead, _, _, htiles⟩ :=
      h.tiles_of_finishedSlot ⟨hmem, first, hfirst, hfinishes⟩ List.mem_cons_self hfirst
    -- Backpointers lead to slots that were opened earlier.
    obtain ⟨children, hchildren⟩ := htiles.exists_spells fun pointer hpointer =>
      ih pointer (h.backpointers_lt hfirst pointer hpointer)
    exact ⟨_, .nonterminal hrule hhead hchildren (.nil j)⟩

/-- A tiling is spelled out by some forest. -/
theorem exists_spells_of_tiles (htiles : chart.Tiles r.grammar r.tokens symbols i k slots) :
    ∃ trees, r.grammar.Spells r.tokens symbols i k trees :=
  htiles.exists_spells fun _ _ => h.exists_spells_of_finishedSlot

/-- A recorded item with its dot at the end has a finished slot. Where derivations are merged, the item
    itself is one of the derivations of that slot. -/
theorem exists_finishedSlot_of_records {item : Item} {n : N}
    (hrecords : chart.Records r.policy item) (hfinishes : item.Finishes r.grammar n) :
    ∃ slot, chart.FinishedSlot r.grammar n item.origin item.stop slot ∧
      (r.policy = .merge → ∃ id, id ∈ slot :: chart.alternativesAt item.stop slot ∧
        chart.arena[id]? = some item) := by
  obtain ⟨other, hother, hkey, hstop⟩ := hrecords.holds
  obtain ⟨slot, first, _, hslot, hfirst, hfirstKey, _⟩ := h.wellFormed.exists_slot hother
  have hsame : first.key = item.key := hfirstKey.trans hkey
  rw [hstop] at hslot
  refine ⟨slot, ⟨hslot, first, hfirst, congrArg ItemKey.origin hsame, hfinishes.of_key_eq hsame⟩, ?_⟩
  intro hpolicy
  rw [hpolicy] at hrecords
  obtain ⟨id, hid⟩ := Array.mem_iff_getElem?.1 hrecords
  exact ⟨id, (h.wellFormed.mem_derivations_iff hslot hfirst).2 ⟨item, hid, rfl, hsame.symm⟩, hid⟩

/-- An item recorded with the dot before these symbols is followed by one recorded behind them, for
    every forest that spells them out. -/
theorem exists_records_of_spells (hspells : r.grammar.Spells r.tokens symbols i k trees)
    {id : RuleId} {rule : Rule T N H} {dot origin : Nat} {before : List ItemId}
    {rest : List (Symbol T N)} (hrule : r.grammar.rules[id]? = some rule)
    (hdrop : rule.production.drop dot = symbols ++ rest)
    (hrecords : chart.Records r.policy ⟨id, dot, origin, i, before⟩) :
    ∃ slots, chart.Records r.policy ⟨id, dot + symbols.length, origin, k, before ++ slots⟩ ∧
      chart.Tiles r.grammar r.tokens symbols i k slots ∧
      (r.policy = .merge → chart.UnfoldsTo r.grammar symbols i slots trees) := by
  induction hspells generalizing id rule dot origin before rest with
  | nil i => exact ⟨[], by simpa using hrecords, .nil i, fun _ => .nil i⟩
  | @terminal t symbols i k trees hadmits _ ih =>
    obtain ⟨hexpects, hrest⟩ := Item.expects_of_drop ⟨id, dot, origin, i, before⟩ hrule hdrop
    have hscan := h.records_scan hrecords hexpects hadmits
    obtain ⟨slots, hslots, htiles, hunfolds⟩ := ih hrule hrest hscan
    refine ⟨slots, ?_, .terminal hadmits htiles, fun hpolicy => .terminal (hunfolds hpolicy)⟩
    rw [List.length_cons, Nat.add_comm symbols.length, ← Nat.add_assoc]
    exact hslots
  | @nonterminal n id' rule' symbols i j k children trees hrule' hhead _ _ ihchildren ihrest =>
    obtain ⟨hexpects, hrest⟩ := Item.expects_of_drop ⟨id, dot, origin, i, before⟩ hrule hdrop
    have hpredicted := h.records_predicted hrecords hexpects hrule' hhead
    obtain ⟨inner, hinner, _, hinnerUnfolds⟩ :=
      ihchildren hrule' (List.append_nil _).symm hpredicted
    rw [Nat.zero_add, List.nil_append] at hinner
    obtain ⟨slot, hslot, hderivation⟩ :=
      h.exists_finishedSlot_of_records hinner ⟨rule', hrule', hhead, Nat.le_refl _⟩
    have hadvance := h.records_advance hrecords hexpects hslot
    obtain ⟨slots, hslots, htiles, hunfolds⟩ := ihrest hrule hrest hadvance
    refine ⟨slot :: slots, ?_, .nonterminal hslot htiles, fun hpolicy => ?_⟩
    · rw [List.length_cons, Nat.add_comm symbols.length, ← Nat.add_assoc, List.append_cons]
      exact hslots
    · obtain ⟨found, hfound, hitem⟩ := hderivation hpolicy
      exact .nonterminal (h.wellFormed.derivations_eq_ok hslot.1) hfound
        (Chart.item_eq_ok_iff.2 hitem) (Grammar.rule_eq_ok_iff.2 hrule')
        (hinnerUnfolds hpolicy) (hunfolds hpolicy)

end Recognition.Filled

end Earley
