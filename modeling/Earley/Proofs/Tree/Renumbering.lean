import Earley.Proofs.Chart.Renumbering
import Earley.Proofs.Tree.Build

/-!
# Trees of renumbered charts

Charts that differ in the numbers of the rules only show the same trees.
-/

namespace Earley

variable {T N H : Type} [DecidableEq N] {g g' : Grammar T N H} {chart other : Chart}
  {renumber : RuleId → RuleId} {limit : Nat}
  (hrules : ∀ id, g'.rules[renumber id]? = g.rules[id]?)
  (h : chart.RenumbersTo other renumber limit)
include hrules h

namespace Tree

theorem Fits.of_renumbersTo {symbols : List (Symbol T N)} {pointers : List ItemId} {position : Nat}
    {children : List (Tree T N H)} (hfits : Fits g chart symbols pointers position children) :
    Fits g' other symbols pointers position children := by
  induction hfits with
  | nil pointers position => exact .nil pointers position
  | terminal _ ih => exact .terminal ih
  | missing _ ih => exact .missing ih
  | @child n symbols pointer pointers position item rule below children hitem hrule _ _ ihBelow ihRest =>
    have hnode : Fits g' other (.nonterminal n :: symbols) (pointer :: pointers) position
        (node rule.head below rule.enter rule.exit
          ⟨(item.renumber renumber).origin, (item.renumber renumber).stop⟩ :: children) :=
      .child (h.getElem?_arena_of_eq_some hitem) ((hrules _).trans hrule) ihBelow ihRest
    exact hnode

theorem Shows.of_renumbersTo {id : ItemId} {tree : Tree T N H} (hshows : Shows g chart id tree) :
    Shows g' other id tree := by
  obtain ⟨item, rule, children, hitem, hrule, hfits, rfl⟩ := hshows
  exact ⟨_, rule, children, h.getElem?_arena_of_eq_some hitem, (hrules _).trans hrule,
    hfits.of_renumbersTo hrules h, rfl⟩

end Tree

namespace Chart.RenumbersTo

theorem acceptsSlot_eq (hstart : g'.start = g.start) (id : ItemId) :
    other.acceptsSlot g' id = chart.acceptsSlot g id := by
  unfold acceptsSlot
  rw [h.getElem?_arena]
  cases chart.arena[id]? with
  | none => rfl
  | some item =>
    simp only [Option.map_some, Item.renumber, hrules, Grammar.IsStartRule, hstart]
    cases g.rules[item.rule]? <;> rfl

/-- The same items accept. -/
theorem acceptingIds_eq (hstart : g'.start = g.start) (hsize : other.inputLength = chart.inputLength)
    (hlimit : chart.inputLength ≤ limit) : other.acceptingIds g' = chart.acceptingIds g := by
  have haccepts : other.acceptsSlot g' = chart.acceptsSlot g :=
    funext (h.acceptsSlot_eq hrules hstart)
  simp only [acceptingIds, hsize, haccepts, h.slots _ hlimit, h.alternatives _ hlimit]

end Chart.RenumbersTo

end Earley
