import Mathlib.Data.List.Nodup
import Earley.Proofs.Recognition.Accepting

/-!
# Packed derivations

Where derivations are merged, the arena of a filled chart is the set of all tilings: an item is a
predicted rule, a dot in it, and slots with which the production tiles the input up to the dot. The
accepting items are the tilings of the whole input by start rules.
-/

namespace Earley

variable {T N H Tok : Type} [DecidableEq N]

namespace Chart

/-- The column at a position has a slot of this key. -/
def HasSlot (chart : Chart) (position : Nat) (key : ItemKey) : Prop :=
  ∃ slot ∈ chart.slotsAt position, ∃ item, chart.arena[slot]? = some item ∧ item.key = key

/-- The item of this id finishes a rule over the first `length` tokens, with these backpointers. -/
def Packs (chart : Chart) (g : Grammar T N H) (length : Nat) (id : ItemId)
    (packing : RuleId × List ItemId) : Prop :=
  ∃ rule, g.rules[packing.1]? = some rule ∧
    chart.arena[id]? = some ⟨packing.1, rule.length, 0, length, packing.2⟩

/-- Items and what they pack determine each other. -/
theorem biUnique_packs {chart : Chart} (hwf : chart.WellFormed) (g : Grammar T N H) (length : Nat) :
    Relator.BiUnique (chart.Packs g length) := by
  constructor
  · rintro id other ⟨rule, slots⟩ ⟨found, hfound, hid⟩ ⟨found', hfound', hother⟩
    rw [hfound] at hfound'
    cases hfound'
    exact hwf.id_eq_of_item_eq hid hother
  · rintro id ⟨rule, slots⟩ ⟨rule', slots'⟩ ⟨found, hfound, hid⟩ ⟨found', hfound', hid'⟩
    rw [hid] at hid'
    simp only [Option.some.injEq, Item.mk.injEq] at hid'
    exact Prod.ext hid'.1 hid'.2.2.2.2

end Chart

namespace Recognition.Filled

variable [Terminal T Tok] {r : Recognition T N H Tok} {chart : Chart} (h : r.Filled chart)
include h

theorem hasSlot_iff_predicted_mem {id : RuleId} {origin : Nat} :
    chart.HasSlot origin ⟨id, 0, origin⟩ ↔ .predicted id origin ∈ chart.arena := by
  constructor
  · rintro ⟨slot, hslot, item, hitem, hkey⟩
    obtain ⟨rule, hjustified⟩ := h.justified (Array.mem_of_getElem? hitem)
    have hpredicted := hjustified.predicted_mem (Array.mem_of_getElem? hitem)
    simp only [Item.key, ItemKey.mk.injEq] at hkey
    rwa [hkey.1, hkey.2.2] at hpredicted
  · intro hmem
    obtain ⟨slot, first, _, hslot, hfirst, hkey, _⟩ := h.wellFormed.exists_slot hmem
    exact ⟨slot, hslot, first, hfirst, hkey⟩

/-- The arena holds an item if and only if its rule has been predicted at its origin and its
    backpointers tile what stands left of its dot. -/
theorem mem_arena_iff (hpolicy : r.policy = .merge) {id : RuleId} {dot origin stop : Nat}
    {slots : List ItemId} :
    ⟨id, dot, origin, stop, slots⟩ ∈ chart.arena ↔ chart.HasSlot origin ⟨id, 0, origin⟩ ∧
      ∃ rule, r.grammar.rules[id]? = some rule ∧ dot ≤ rule.length ∧
        chart.Tiles r.grammar r.tokens (rule.production.take dot) origin stop slots := by
  rw [h.hasSlot_iff_predicted_mem]
  constructor
  · intro hmem
    obtain ⟨rule, hjustified⟩ := h.justified hmem
    exact ⟨hjustified.predicted_mem hmem, rule, hjustified.rule_eq, hjustified.dot_le,
      hjustified.tiles⟩
  · rintro ⟨hpredicted, rule, hrule, hdot, htiles⟩
    have hrecords := h.records_of_tiles hrule hpredicted hdot htiles
    rwa [hpolicy] at hrecords

theorem predicted_mem_of_start {id : RuleId} (hid : id ∈ r.grammar.startRules) :
    .predicted id 0 ∈ chart.arena := by
  obtain ⟨other, hother, hkey, hstop⟩ := (h.start hid).holds
  obtain ⟨slot, first, _, hslot, hfirst, hfirstKey, _⟩ := h.wellFormed.exists_slot hother
  rw [hstop] at hslot
  exact h.hasSlot_iff_predicted_mem.1 ⟨slot, hslot, first, hfirst, hfirstKey.trans hkey⟩

/-- A tiling of the whole input by a start rule is recorded. -/
theorem records_of_start_tiles {id : RuleId} {rule : Rule T N H} {slots : List ItemId}
    (hrule : r.grammar.rules[id]? = some rule) (hhead : rule.head = r.grammar.start)
    (htiles : chart.Tiles r.grammar r.tokens rule.production 0 r.tokens.size slots) :
    chart.Records r.policy ⟨id, rule.length, 0, r.tokens.size, slots⟩ := by
  have hstart : id ∈ r.grammar.startRules := (Grammar.mem_rulesFor_iff _).2 ⟨rule, hrule, hhead⟩
  have htake : rule.production.take rule.length = rule.production := List.take_length
  rw [← htake] at htiles
  exact h.records_of_tiles hrule (h.predicted_mem_of_start hstart) (Nat.le_refl _) htiles

/-- A tiling of the whole input by a start rule is what some accepting item packs. -/
theorem exists_packs_of_tiles (hpolicy : r.policy = .merge) {id : RuleId} {rule : Rule T N H}
    {slots : List ItemId} (hrule : r.grammar.rules[id]? = some rule)
    (hhead : rule.head = r.grammar.start)
    (htiles : chart.Tiles r.grammar r.tokens rule.production 0 r.tokens.size slots) :
    ∃ accepting ∈ chart.acceptingIds r.grammar,
      chart.Packs r.grammar r.tokens.size accepting (id, slots) := by
  have hmem := h.records_of_start_tiles hrule hhead htiles
  rw [hpolicy] at hmem
  obtain ⟨accepting, haccepting⟩ := Array.mem_iff_getElem?.1 hmem
  refine ⟨accepting, h.mem_acceptingIds_iff.2 ?_, rule, hrule, haccepting⟩
  exact ⟨_, haccepting, rfl, rfl, rule, hrule, hhead, Nat.le_refl _⟩

/-- What the accepting items pack are the tilings of the whole input by start rules, each of them
    once. -/
theorem exists_packings (hpolicy : r.policy = .merge) :
    ∃ packings, List.Forall₂ (chart.Packs r.grammar r.tokens.size)
        (chart.acceptingIds r.grammar) packings ∧
      packings.Nodup ∧ ∀ id slots, (id, slots) ∈ packings ↔ ∃ rule,
        r.grammar.rules[id]? = some rule ∧ rule.head = r.grammar.start ∧
        chart.Tiles r.grammar r.tokens rule.production 0 r.tokens.size slots := by
  have hpacks : ∀ id ∈ chart.acceptingIds r.grammar,
      ∃ packing, chart.Packs r.grammar r.tokens.size id packing := by
    intro id hid
    obtain ⟨⟨_, _, _, _, slots⟩, rule, hitem, hrule, _, rfl, rfl, rfl, _⟩ :=
      h.tiles_of_mem_acceptingIds hid
    exact ⟨(_, slots), rule, hrule, hitem⟩
  obtain ⟨packings, hpackings⟩ := exists_forall₂ hpacks
  have hunique := Chart.biUnique_packs h.wellFormed r.grammar r.tokens.size
  refine ⟨packings, hpackings, ?_, fun rule slots => ⟨?_, ?_⟩⟩
  · exact (List.rel_nodup hunique hpackings).1 (Chart.nodup_acceptingIds h.wellFormed)
  · intro hmem
    obtain ⟨id, hid, rule', hrule, hitem⟩ := exists_mem_of_forall₂ hpackings hmem
    obtain ⟨item, found, hfound, hfoundRule, hhead, _, _, _, htiles⟩ :=
      h.tiles_of_mem_acceptingIds hid
    rw [hitem] at hfound
    cases hfound
    exact ⟨found, hfoundRule, hhead, htiles⟩
  · rintro ⟨_, hrule, hhead, htiles⟩
    obtain ⟨id, hid, hpacks⟩ := h.exists_packs_of_tiles hpolicy hrule hhead htiles
    exact (List.rel_mem hunique hpacks hpackings).1 hid

end Recognition.Filled

end Earley
