import Earley.Proofs.Recognition.Filled

/-!
# Placed items

At every moment of a recognition, each item of the chart stands where its production puts it. What is
left of the dot covers the tokens from the origin up to the item's position, and the backpointers lead
to slots that were opened earlier and finish the nonterminals left of the dot, one each and in order.
-/

namespace Earley

variable {T N H Tok : Type} [DecidableEq N]

/-- The slot was opened before the item `id` entered the chart and finishes a rule of `n`. It is no
    alternative of another slot. -/
def Chart.EarlierSlot (chart : Chart) (g : Grammar T N H) (id : ItemId) (n : N) (slot : ItemId) :
    Prop :=
  slot < id ∧ (∀ position other, slot ∉ chart.alternativesAt position other) ∧
    ∃ child, chart.arena[slot]? = some child ∧ slot ∈ chart.slotsAt child.stop ∧
      child.Finishes g n

namespace Recognition

variable [Terminal T Tok] {r : Recognition T N H Tok} {s : State N} {id : ItemId} {item : Item}

/-- An item of this rule that stands where its production puts it. -/
structure Placed (r : Recognition T N H Tok) (chart : Chart) (id : ItemId) (item : Item)
    (rule : Rule T N H) : Prop where
  rule_eq : r.grammar.rules[item.rule]? = some rule
  dot_le : item.dot ≤ rule.length
  origin_le : item.origin ≤ item.stop
  stop_le : item.stop ≤ r.tokens.size
  tiles : chart.Tiles r.grammar r.tokens (rule.production.take item.dot) item.origin item.stop
    item.backpointers
  backpointers : List.Forall₂ (chart.EarlierSlot r.grammar id)
    ((rule.production.take item.dot).filterMap Symbol.nonterminal?) item.backpointers

/-- A sound chart places all of its items. -/
theorem Sound.exists_placed (hs : r.Sound s) (hitem : s.chart.arena[id]? = some item) :
    ∃ rule, r.Placed s.chart id item rule := by
  obtain ⟨rule, hjustified⟩ := hs.arena_justified (Array.mem_of_getElem? hitem)
  have hstop : item.stop ≤ r.tokens.size := by
    have hlt := hs.wellFormed.stop_lt hitem
    rw [hs.size_columns] at hlt
    omega
  refine ⟨rule, hjustified.rule_eq, hjustified.dot_le, hjustified.origin_le, hstop,
    hjustified.tiles, ?_⟩
  have hslots := hjustified.tiles.forall₂_finishedSlot
  rw [List.forall₂_iff_get] at hslots ⊢
  refine ⟨hslots.1, fun i hi hi' => ?_⟩
  obtain ⟨_, _, hslot, child, hchild, _, hfinishes⟩ := hslots.2 i hi hi'
  have hlt := hs.backpointers_lt hitem _ (List.get_mem item.backpointers ⟨i, hi'⟩)
  have hend := hs.wellFormed.stop_of_mem_slotsAt hslot hchild
  exact ⟨hlt, fun _ _ => hs.wellFormed.not_mem_alternativesAt hslot, child, hchild,
    hend ▸ hslot, hfinishes⟩

/-- A finished item has one backpointer for each nonterminal of its production. -/
theorem Placed.length_backpointers {chart : Chart} {rule : Rule T N H}
    (h : r.Placed chart id item rule) (hdot : rule.length ≤ item.dot) :
    item.backpointers.length = rule.nonterminals.length := by
  have hlength := h.backpointers.length_eq
  rw [List.take_of_length_le hdot] at hlength
  exact hlength.symm

/-- Every item of every state that a recognition goes through is placed. -/
theorem placed_of_reachable (hreachable : r.Reachable s)
    (hitem : s.chart.arena[id]? = some item) :
    ∃ rule, r.Placed s.chart id item rule ∧
      (rule.length ≤ item.dot → item.backpointers.length = rule.nonterminals.length) := by
  obtain ⟨rule, hplaced⟩ := hreachable.invariant.sound.exists_placed hitem
  exact ⟨rule, hplaced, hplaced.length_backpointers⟩

/-- The recognition of one token by the rules `S → S` and `S → 'x'`. -/
def unitCycle : Recognition Char Unit Unit Char where
  grammar := ⟨#[⟨(), [.nonterminal ()], none, none⟩, ⟨(), [.terminal 'x'], none, none⟩], (),
    [((), [0, 1])], by decide, by decide⟩
  tokens := #['x']
  policy := .merge

/-- The alternative that leads back to its own slot is placed. -/
theorem placed_of_reachable_unitCycle :
    unitCycle.Reachable (unitCycle.after 12) ∧
      (unitCycle.after 12).chart.arena[4]? = some ⟨0, 1, 0, 1, [3]⟩ ∧
      3 ∈ (unitCycle.after 12).chart.slotsAt 1 ∧
      4 ∈ (unitCycle.after 12).chart.alternativesAt 1 3 ∧
      ∃ rule, unitCycle.Placed (unitCycle.after 12).chart 4 ⟨0, 1, 0, 1, [3]⟩ rule ∧
        (rule.length ≤ 1 → [3].length = rule.nonterminals.length) :=
  have hreachable := unitCycle.reachable_after 12
  have hitem : (unitCycle.after 12).chart.arena[4]? = some ⟨0, 1, 0, 1, [3]⟩ := by decide +kernel
  ⟨hreachable, hitem, by decide +kernel, by decide +kernel, placed_of_reachable hreachable hitem⟩

end Recognition

end Earley
