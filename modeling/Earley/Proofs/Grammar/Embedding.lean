import Earley.Proofs.Chart.Renumbering
import Earley.Proofs.Chart.Tiling
import Earley.Proofs.Grammar.Validity

/-!
# Grammars inside others

A grammar is embedded in another one that has the same start symbol and the same rules, perhaps under other
numbers and among further ones. All that the grammar derives is derived by the other one too.
-/

namespace Earley

variable {T N H Tok : Type} [DecidableEq N] {g g' : Grammar T N H}

namespace Grammar

section Mono

variable (hrules : ∀ rule ∈ g.rules, rule ∈ g'.rules)
include hrules

theorem Rewrites.mono {form form' : List (Symbol T N)} (h : g.Rewrites form form') :
    g'.Rewrites form form' := by
  cases h with
  | apply left right hrule => exact .apply left right (hrules _ hrule)

theorem Derives.mono {form form' : List (Symbol T N)} (h : g.Derives form form') :
    g'.Derives form form' :=
  Relation.ReflTransGen.mono (fun _ _ => Rewrites.mono hrules) _ _ h

theorem DerivesStretch.mono [Terminal T Tok] {tokens : Array Tok} {symbols : List (Symbol T N)}
    {i k : Nat} (h : g.DerivesStretch tokens symbols i k) : g'.DerivesStretch tokens symbols i k := by
  obtain ⟨word, hderives, hreads⟩ := h
  exact ⟨word, hderives.mono hrules, hreads⟩

theorem Wants.mono [Terminal T Tok] (hstart : g'.start = g.start) {tokens : Array Tok}
    {position : Nat} {n : N} (h : g.Wants tokens position n) : g'.Wants tokens position n := by
  obtain ⟨word, rest, hderives, hreads⟩ := h
  exact ⟨word, rest, hstart ▸ hderives.mono hrules, hreads⟩

end Mono

/-- The other grammar has the same start symbol and, under these numbers, the same rules. -/
structure EmbedsIn (g g' : Grammar T N H) (renumber : RuleId → RuleId) : Prop where
  start_eq : g'.start = g.start
  injective : Function.Injective renumber
  rule_eq : ∀ id, g'.rules[renumber id]? = g.rules[id]?

namespace EmbedsIn

variable {renumber : RuleId → RuleId} (h : g.EmbedsIn g' renumber)
include h

theorem expects_iff {item : Item} {symbol : Symbol T N} :
    (item.renumber renumber).Expects g' symbol ↔ item.Expects g symbol := by
  simp only [Item.Expects, Item.renumber, h.rule_eq]

theorem finishes_iff {item : Item} {n : N} :
    (item.renumber renumber).Finishes g' n ↔ item.Finishes g n := by
  simp only [Item.Finishes, Item.renumber, h.rule_eq]

theorem mem_rules {rule : Rule T N H} (hrule : rule ∈ g.rules) : rule ∈ g'.rules := by
  obtain ⟨id, hid⟩ := Array.mem_iff_getElem?.1 hrule
  exact Array.mem_of_getElem? ((h.rule_eq id).trans hid)

/-- What is valid remains so. -/
theorem validAt [Terminal T Tok] {tokens : Array Tok} {position : Nat} {key : ItemKey}
    (hvalid : g.ValidAt tokens position key) :
    g'.ValidAt tokens position (key.renumber renumber) := by
  obtain ⟨rule, hrule, hdot, horigin, hwants, hderives⟩ := hvalid
  have hrules : ∀ rule ∈ g.rules, rule ∈ g'.rules := fun _ => h.mem_rules
  exact ⟨rule, (h.rule_eq key.rule).trans hrule, hdot, horigin, hwants.mono hrules h.start_eq,
    hderives.mono hrules⟩

end EmbedsIn

end Grammar

end Earley
