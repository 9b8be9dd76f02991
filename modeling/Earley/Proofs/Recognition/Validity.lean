import Earley.Proofs.Grammar.Validity
import Earley.Proofs.Recognition.Packing

/-!
# Slots and valid items

The columns of a filled chart have slots for the valid items and for no others. Each slot can be traced
back to a start rule. Conversely, what a sentential form wants is predicted, because each rewriting that
leads to the form is met by a rule that the chart records.
-/

namespace Earley.Recognition.Filled

variable {T N H Tok : Type} [DecidableEq N] [Terminal T Tok] {r : Recognition T N H Tok}
  {chart : Chart} (h : r.Filled chart)
include h

theorem stop_le {item : Item} (hitem : item ∈ chart.arena) : item.stop ≤ r.tokens.size := by
  obtain ⟨id, hid⟩ := Array.mem_iff_getElem?.1 hitem
  have hlt := h.wellFormed.stop_lt hid
  rw [h.size_columns] at hlt
  omega

/-- What stands left of an item's dot derives what the item covers. -/
theorem derivesStretch_of_mem {item : Item} {rule : Rule T N H} (hitem : item ∈ chart.arena)
    (hrule : r.grammar.rules[item.rule]? = some rule) :
    r.grammar.DerivesStretch r.tokens (rule.production.take item.dot) item.origin item.stop := by
  obtain ⟨_, hjustified⟩ := h.justified hitem
  have hfound := hjustified.rule_eq
  rw [hrule] at hfound
  cases hfound
  exact (Grammar.derivesStretch_iff_exists_spells hjustified.origin_le (h.stop_le hitem)).2
    (h.exists_spells_of_tiles hjustified.tiles)

/-- The head of an item's rule is wanted at the item's origin. -/
theorem wants_of_mem {id : ItemId} {item : Item} {rule : Rule T N H}
    (hitem : chart.arena[id]? = some item) (hrule : r.grammar.rules[item.rule]? = some rule) :
    r.grammar.Wants r.tokens item.origin rule.head := by
  induction id using Nat.strongRecOn generalizing item rule with
  | ind id ih =>
    cases h.stems hitem with
    | start hid =>
      obtain ⟨found, hfound, hhead⟩ := r.grammar.mem_rulesFor_iff.1 hid
      rw [Item.predicted, hfound] at hrule
      cases hrule
      rw [hhead]
      exact Grammar.wants_start
    | @predict parent item n id' hlt hparent hexpects hid =>
      obtain ⟨found, hfound, hhead⟩ := r.grammar.mem_rulesFor_iff.1 hid
      rw [Item.predicted, hfound] at hrule
      cases hrule
      obtain ⟨parentRule, hparentRule, hsymbol⟩ := hexpects
      have hmem := Array.mem_of_getElem? hparent
      obtain ⟨_, hjustified⟩ := h.justified hmem
      rw [hhead]
      exact (ih parent hlt hparent hparentRule).expected (Array.mem_of_getElem? hparentRule) hsymbol
        (h.derivesStretch_of_mem hmem hparentRule) hjustified.origin_le
    | scan hlt hparent =>
      have hwants := ih _ hlt hparent hrule
      exact hwants
    | advance hlt hparent =>
      have hwants := ih _ hlt hparent hrule
      exact hwants

/-- If a sentential form has a nonterminal behind symbols that spell out the first tokens, the rules of
    the nonterminal are predicted there. -/
theorem records_predicted_of_derives {left right : List (Symbol T N)} {n : N} {position : Nat}
    {trees : List (RuleTree T)}
    (hderives : r.grammar.Derives [.nonterminal r.grammar.start]
      (left ++ .nonterminal n :: right))
    (hleft : r.grammar.Spells r.tokens left 0 position trees) {id : RuleId} {rule : Rule T N H}
    (hrule : r.grammar.rules[id]? = some rule) (hhead : rule.head = n) :
    chart.Records r.policy (.predicted id position) := by
  generalize hform : left ++ .nonterminal n :: right = form at hderives
  induction hderives generalizing left right n position trees id rule with
  | refl =>
    obtain ⟨rfl, hsymbols⟩ | ⟨_, hnil⟩ := List.append_eq_singleton_iff.1 hform
    · cases hsymbols
      cases hleft
      exact h.start (r.grammar.mem_rulesFor_iff.2 ⟨rule, hrule, hhead⟩)
    · cases hnil
  | tail _ hstep ih =>
    cases hstep with
    | @apply front back applied happlied =>
      rw [List.append_assoc] at hform
      obtain ⟨rest, rfl, rfl⟩ | ⟨before, rfl, hbehind⟩ := append_cons_eq_append_cases hform
      · have hprevious : left ++ .nonterminal n :: (rest ++ .nonterminal applied.head :: back) =
            left ++ .nonterminal n :: rest ++ .nonterminal applied.head :: back := by simp
        exact ih hleft hrule hhead hprevious
      -- The nonterminal was brought in by the rewriting, or stands behind it.
      obtain ⟨after, hproduction, rfl⟩ | ⟨before, rfl, rfl⟩ :=
        append_cons_eq_append_cases hbehind.symm
      · obtain ⟨id', hid'⟩ := Array.mem_iff_getElem?.1 happlied
        obtain ⟨j, _, _, hfront, hbefore⟩ := hleft.exists_of_append
        have hpredicted := ih hfront hid' rfl rfl
        have hdrop : applied.production.drop 0 = before ++ .nonterminal n :: after := hproduction
        obtain ⟨slots, hslots, _⟩ := h.exists_records_of_spells hbefore hid' hdrop hpredicted
        have hexpects : Item.Expects ⟨id', 0 + before.length, j, position, [] ++ slots⟩ r.grammar
            (.nonterminal n) := by
          refine ⟨applied, hid', ?_⟩
          rw [Rule.symbol?, hproduction, Nat.zero_add, List.getElem?_append_right (Nat.le_refl _)]
          simp
        exact h.records_predicted hslots hexpects hrule hhead
      · rw [← List.append_assoc] at hleft
        obtain ⟨others, hothers⟩ := (Grammar.Rewrites.apply front before happlied).spells hleft
        have hprevious : front ++ .nonterminal applied.head :: before ++ .nonterminal n :: right =
            front ++ .nonterminal applied.head :: (before ++ .nonterminal n :: right) := by simp
        exact ih hothers hrule hhead hprevious

/-- The columns have slots for the valid items. -/
theorem hasSlot_iff_validAt {position : Nat} (hposition : position ≤ r.tokens.size) {key : ItemKey} :
    chart.HasSlot position key ↔ r.grammar.ValidAt r.tokens position key := by
  constructor
  · rintro ⟨slot, hslot, item, hitem, rfl⟩
    have hmem := Array.mem_of_getElem? hitem
    obtain ⟨rule, hjustified⟩ := h.justified hmem
    obtain rfl := h.wellFormed.stop_of_mem_slotsAt hslot hitem
    exact ⟨rule, hjustified.rule_eq, hjustified.dot_le, hjustified.origin_le,
      h.wants_of_mem hitem hjustified.rule_eq, h.derivesStretch_of_mem hmem hjustified.rule_eq⟩
  · rintro ⟨rule, hrule, hdot, horigin, ⟨word, rest, hderives, hreads⟩, hbefore⟩
    have hword : r.grammar.DerivesStretch r.tokens (word.map .terminal) 0 key.origin :=
      ⟨word, .refl, hreads⟩
    obtain ⟨leaves, hleaves⟩ := (Grammar.derivesStretch_iff_exists_spells (Nat.zero_le _)
      (Nat.le_trans horigin hposition)).1 hword
    obtain ⟨trees, htrees⟩ := (Grammar.derivesStretch_iff_exists_spells horigin hposition).1 hbefore
    have hpredicted := h.records_predicted_of_derives hderives hleaves hrule rfl
    have hdrop : rule.production.drop 0 =
        rule.production.take key.dot ++ rule.production.drop key.dot :=
      (List.take_append_drop key.dot rule.production).symm
    obtain ⟨slots, hslots, _⟩ := h.exists_records_of_spells htrees hrule hdrop hpredicted
    rw [List.length_take_of_le hdot, Nat.zero_add] at hslots
    obtain ⟨item, hitem, hkey, hstop⟩ := hslots.holds
    obtain ⟨slot, first, _, hslot, hfirst, hfirstKey, _⟩ := h.wellFormed.exists_slot hitem
    rw [hstop] at hslot
    exact ⟨slot, hslot, first, hfirst, hfirstKey.trans hkey⟩

end Earley.Recognition.Filled
