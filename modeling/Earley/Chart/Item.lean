import Std.Data.TreeMap
import Earley.Fault

/-!
# Items

An item says how far a rule has been recognized: the dot stands somewhere in the production, and
what is left of it covers the tokens from the origin up to the column that the item lives in. For
each nonterminal left of the dot the item names a finished item, its backpointer.
-/

namespace Earley

/-- The position of an item in its chart. Ids are given out in the order of creation. -/
abbrev ItemId := Nat

/-- The identity of an item within its column. It leaves out the backpointers. -/
structure ItemKey where
  rule : RuleId
  dot : Nat
  origin : Nat
deriving DecidableEq, Repr

namespace ItemKey

/-- Keys are ordered by rule, then by dot, then by origin. -/
def order : ItemKey → ItemKey → Ordering :=
  compareLex (compareOn rule) (compareLex (compareOn dot) (compareOn origin))

instance : Ord ItemKey := ⟨order⟩

instance : Std.TransOrd ItemKey :=
  inferInstanceAs (Std.TransCmp
    (compareLex (compareOn rule) (compareLex (compareOn dot) (compareOn origin))))

instance : Std.LawfulEqOrd ItemKey where
  eq_of_compare {a b} h := by
    have h : order a b = .eq := h
    simp only [order, compareLex_eq_eq, compareOn, Nat.compare_eq_eq] at h
    cases a
    cases b
    simp_all

end ItemKey

/-- A rule that is being recognized. -/
structure Item where
  rule : RuleId
  dot : Nat
  origin : Nat
  /-- The column that the item lives in. -/
  stop : Nat
  /-- The finished items of the nonterminals left of the dot, from left to right. -/
  backpointers : List ItemId
deriving DecidableEq, Repr

namespace Item

variable {T N H : Type} [DecidableEq N]

def key (item : Item) : ItemKey :=
  ⟨item.rule, item.dot, item.origin⟩

/-- The symbol after the dot, or `none` where the dot is at the end. -/
def next? (item : Item) (g : Grammar T N H) : Except Fault (Option (Symbol T N)) := do
  let rule ← g.rule item.rule
  return rule.symbol? item.dot

theorem next?_eq_ok_iff {item : Item} {g : Grammar T N H} {next : Option (Symbol T N)} :
    item.next? g = .ok next ↔
      ∃ rule, g.rules[item.rule]? = some rule ∧ rule.symbol? item.dot = next := by
  unfold next?
  rw [bind_eq_ok_iff]
  constructor
  · rintro ⟨rule, hrule, hnext⟩
    exact ⟨rule, Grammar.rule_eq_ok_iff.1 hrule, pure_eq_ok_iff.1 hnext⟩
  · rintro ⟨rule, hrule, hnext⟩
    exact ⟨rule, Grammar.rule_eq_ok_iff.2 hrule, pure_eq_ok_iff.2 hnext⟩

/-- Whether the dot is at the end. -/
def isFinished (item : Item) (g : Grammar T N H) : Except Fault Bool := do
  let rule ← g.rule item.rule
  return rule.length ≤ item.dot

end Item

end Earley
