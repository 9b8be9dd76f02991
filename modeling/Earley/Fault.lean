import Earley.Grammar.Basic

/-!
# Faults

Charts name columns, items and rules by number. A number that names nothing is a fault of whoever
made it up: recognition and tree building never meet one on their own charts.
-/

namespace Earley

/-- Why a chart could not be read or extended. -/
inductive Fault where
  /-- The grammar has no rule of this id. -/
  | noRule (id : RuleId)
  /-- The chart has no item of this id. -/
  | noItem (id : Nat)
  /-- The chart has no column at this position. -/
  | noColumn (position : Nat)
  /-- The column at this position holds more slots than there are dotted rules and origins. -/
  | overfull (position : Nat)
  /-- Below this item backpointers lead in a circle. -/
  | circular (id : Nat)
deriving DecidableEq, Repr

/-- Two steps in a row succeed if and only if each of them does. -/
theorem bind_eq_ok_iff {ε α β : Type} {x : Except ε α} {f : α → Except ε β} {b : β} :
    (x >>= f) = .ok b ↔ ∃ a, x = .ok a ∧ f a = .ok b := by
  cases x with
  | error fault =>
    constructor
    · intro h
      cases h
    · rintro ⟨a, ha, _⟩
      cases ha
  | ok a =>
    constructor
    · intro h
      exact ⟨a, rfl, h⟩
    · rintro ⟨_, ha, h⟩
      cases ha
      exact h

theorem pure_eq_ok_iff {α : Type} {a b : α} : (pure a : Except Fault α) = .ok b ↔ a = b :=
  Except.ok.injEq a b ▸ Iff.rfl

namespace Grammar

variable {T N H : Type} [DecidableEq N]

/-- The rule of this id. -/
def rule (g : Grammar T N H) (id : RuleId) : Except Fault (Rule T N H) :=
  match g.rules[id]? with
  | some rule => .ok rule
  | none => .error (.noRule id)

theorem rule_eq_ok_iff {g : Grammar T N H} {id : RuleId} {rule : Rule T N H} :
    g.rule id = .ok rule ↔ g.rules[id]? = some rule := by
  unfold Grammar.rule
  cases g.rules[id]? <;> simp

end Grammar

end Earley
