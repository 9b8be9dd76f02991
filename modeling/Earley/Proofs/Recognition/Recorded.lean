import Earley.Proofs.Recognition.Filled

/-!
# What a filled chart records

A filled chart records every item whose rule has been predicted and whose production is tiled up to the
dot. Where only the first derivation of a key is kept, that one stands for all of them: what can follow
an item depends on its key and its position alone.
-/

namespace Earley

/-- What is recorded of the successors of the items in the chart is recorded of the successors of the
    items that the chart records. -/
theorem Chart.Records.successor {chart : Chart} {policy : AmbiguityPolicy} {item : Item}
    (hrecords : chart.Records policy item) (next : Item → Item)
    (hnext : ∀ other, other.key = item.key → other.stop = item.stop →
      (next other).key = (next item).key ∧ (next other).stop = (next item).stop)
    (hclosed : ∀ other ∈ chart.arena, other.key = item.key → other.stop = item.stop →
      chart.Records policy (next other)) :
    chart.Records policy (next item) := by
  cases policy with
  | merge => exact hclosed item hrecords rfl rfl
  | keepFirst =>
    obtain ⟨other, hother, hkey, hstop⟩ := hrecords
    obtain ⟨first, hfirst, hfirstKey, hfirstStop⟩ := hclosed other hother hkey hstop
    obtain ⟨hnextKey, hnextStop⟩ := hnext other hkey hstop
    exact ⟨first, hfirst, hfirstKey.trans hnextKey, hfirstStop.trans hnextStop⟩

namespace Recognition

variable {T N H Tok : Type} [DecidableEq N] [Terminal T Tok] {r : Recognition T N H Tok}
  {chart : Chart} {item : Item}

namespace Filled

variable (h : r.Filled chart)
include h

theorem ruled : chart.Ruled r.grammar := by
  intro item hitem
  obtain ⟨rule, hjustified⟩ := h.justified hitem
  exact ⟨rule, hjustified.rule_eq⟩

theorem records_scan (hrecords : chart.Records r.policy item) {t : T}
    (hexpects : item.Expects r.grammar (.terminal t)) (hadmits : AdmitsAt r.tokens item.stop t) :
    chart.Records r.policy item.scan := by
  apply hrecords.successor Item.scan
  · intro other hkey hstop
    simp only [Item.key, ItemKey.mk.injEq] at hkey
    simp only [Item.scan, Item.key, hkey, hstop, and_self]
  · intro other hother hkey hstop
    exact h.scan hother (hexpects.of_key_eq hkey) (hstop ▸ hadmits)

theorem records_advance (hrecords : chart.Records r.policy item) {n : N} {position : Nat}
    {slot : ItemId} (hexpects : item.Expects r.grammar (.nonterminal n))
    (hslot : chart.FinishedSlot r.grammar n item.stop position slot) :
    chart.Records r.policy (item.advance position slot) := by
  apply hrecords.successor fun other => other.advance position slot
  · intro other hkey hstop
    simp only [Item.key, ItemKey.mk.injEq] at hkey
    simp only [Item.advance, Item.key, hkey, and_self]
  · intro other hother hkey hstop
    exact h.complete hother (hexpects.of_key_eq hkey) (hstop ▸ hslot)

theorem records_predicted (hrecords : chart.Records r.policy item) {n : N} {id : RuleId}
    {rule : Rule T N H} (hexpects : item.Expects r.grammar (.nonterminal n))
    (hrule : r.grammar.rules[id]? = some rule) (hhead : rule.head = n) :
    chart.Records r.policy (.predicted id item.stop) := by
  obtain ⟨other, hother, hkey, hstop⟩ := hrecords.holds
  have hid : id ∈ r.grammar.rulesFor n := (Grammar.mem_rulesFor_iff _).2 ⟨rule, hrule, hhead⟩
  rw [← hstop]
  exact h.predict hother (hexpects.of_key_eq hkey) hid

/-- Every tiling of the symbols left of a dot is recorded, once the rule has been predicted. -/
theorem records_of_tiles {id : RuleId} {rule : Rule T N H} {origin dot stop : Nat}
    {slots : List ItemId} (hrule : r.grammar.rules[id]? = some rule)
    (hpredicted : .predicted id origin ∈ chart.arena) (hdot : dot ≤ rule.length)
    (htiles : chart.Tiles r.grammar r.tokens (rule.production.take dot) origin stop slots) :
    chart.Records r.policy ⟨id, dot, origin, stop, slots⟩ := by
  induction dot generalizing stop slots with
  | zero =>
    cases htiles
    exact .of_mem hpredicted
  | succ dot ih =>
    have hget : rule.production[dot]? = some rule.production[dot] := List.getElem?_eq_getElem hdot
    rw [List.take_add_one, hget, Option.toList_some] at htiles
    obtain ⟨position, front, back, rfl, hfront, hback⟩ := htiles.exists_of_append
    have hrecords := ih (Nat.le_of_succ_le hdot) hfront
    have hexpects : Item.Expects ⟨id, dot, origin, position, front⟩ r.grammar
        rule.production[dot] := ⟨rule, hrule, hget⟩
    generalize rule.production[dot] = symbol at hback hexpects
    cases hback with
    | terminal hadmits hrest =>
      cases hrest
      rw [List.append_nil]
      exact h.records_scan hrecords hexpects hadmits
    | nonterminal hslot hrest =>
      cases hrest
      exact h.records_advance hrecords hexpects hslot

end Filled

end Recognition

end Earley
