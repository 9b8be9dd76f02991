import Mathlib.Data.List.Flatten
import Earley.Proofs.Chart.Listing
import Earley.Proofs.Recognition.Yield

/-!
# Accepting items

On a well-formed chart whose items belong to rules of the grammar, the accepting items are the finished
items of start rules that span the whole input, each of them once.
-/

namespace Earley.Chart

variable {T N H : Type} [DecidableEq N]

/-- Whether a slot accepts. -/
def acceptsSlot (chart : Chart) (g : Grammar T N H) (id : ItemId) : Bool :=
  match chart.arena[id]? with
  | some item =>
    match g.rules[item.rule]? with
    | some rule => item.origin = 0 && (g.IsStartRule rule && rule.length ≤ item.dot)
    | none => false
  | none => false

/-- The accepting slots of the last column, each followed by its alternatives. -/
def acceptingIds (chart : Chart) (g : Grammar T N H) : List ItemId :=
  ((chart.slotsAt chart.inputLength).filter (chart.acceptsSlot g)).flatMap fun slot =>
    slot :: chart.alternativesAt chart.inputLength slot

variable {chart : Chart} {g : Grammar T N H}

theorem acceptsSlot_iff {id : ItemId} {item : Item} (hitem : chart.arena[id]? = some item) :
    chart.acceptsSlot g id = true ↔ item.origin = 0 ∧ item.Finishes g g.start := by
  unfold acceptsSlot Item.Finishes
  simp only [hitem]
  cases hrule : g.rules[item.rule]? with
  | none => simp
  | some rule =>
    simp only [Bool.and_eq_true, decide_eq_true_eq, Option.some.injEq, exists_eq_left']
    exact Iff.rfl

variable (hwf : chart.WellFormed)
include hwf

theorem accepting_eq_ok (hruled : chart.Ruled g) (hsize : 0 < chart.columns.size) :
    chart.accepting g = .ok (chart.acceptingIds g) := by
  have hlast : chart.inputLength < chart.columns.size := by
    unfold inputLength
    omega
  have hcolumn := Array.getElem?_eq_getElem hlast
  refine bind_eq_ok_iff.2 ⟨_, column_eq_ok_iff.2 hcolumn, ?_⟩
  rw [← slotsAt_of_column hcolumn]
  have hfilter : (chart.slotsAt chart.inputLength).filterM
      (fun slot => do accepts g (← chart.item slot)) =
      .ok ((chart.slotsAt chart.inputLength).filter (chart.acceptsSlot g)) := by
    apply filterM_eq_ok_filter
    intro slot hslot
    obtain ⟨item, hitem, _⟩ := hwf.slot_item hslot
    obtain ⟨rule, hrule⟩ := hruled item (Array.mem_of_getElem? hitem)
    refine bind_eq_ok_iff.2 ⟨item, item_eq_ok_iff.2 hitem, ?_⟩
    unfold accepts
    simp only [acceptsSlot, hitem, hrule]
    by_cases horigin : item.origin = 0
    · simp only [horigin, ↓reduceIte, decide_true, Bool.true_and]
      exact bind_eq_ok_iff.2 ⟨rule, Grammar.rule_eq_ok_iff.2 hrule, rfl⟩
    · simp only [horigin, ↓reduceIte, decide_false, Bool.false_and]
      rfl
  refine bind_eq_ok_iff.2 ⟨_, hfilter, ?_⟩
  have hderivations : ((chart.slotsAt chart.inputLength).filter (chart.acceptsSlot g)).mapM
      chart.derivations =
      .ok (((chart.slotsAt chart.inputLength).filter (chart.acceptsSlot g)).map fun slot =>
        slot :: chart.alternativesAt chart.inputLength slot) := by
    rw [← List.filterMap_eq_map]
    apply mapM_eq_ok_filterMap
    intro slot hslot
    exact ⟨_, hwf.derivations_eq_ok (List.mem_of_mem_filter hslot), rfl⟩
  exact bind_eq_ok_iff.2 ⟨_, hderivations, congrArg Except.ok List.flatMap_def.symm⟩

theorem mem_acceptingIds_iff {id : ItemId} :
    id ∈ chart.acceptingIds g ↔ ∃ item, chart.arena[id]? = some item ∧ item.origin = 0 ∧
      item.stop = chart.inputLength ∧ item.Finishes g g.start := by
  unfold acceptingIds
  rw [List.mem_flatMap]
  constructor
  · rintro ⟨slot, hslot, hid⟩
    obtain ⟨hslot, haccepts⟩ := List.mem_filter.1 hslot
    obtain ⟨first, hfirst, _⟩ := hwf.slot_item hslot
    obtain ⟨item, hitem, hstop, hkey⟩ := (hwf.mem_derivations_iff hslot hfirst).1 hid
    obtain ⟨horigin, hfinishes⟩ := (acceptsSlot_iff hfirst).1 haccepts
    have horigin' : item.origin = first.origin := congrArg ItemKey.origin hkey
    exact ⟨item, hitem, horigin'.trans horigin, hstop, hfinishes.of_key_eq hkey⟩
  · rintro ⟨item, hitem, horigin, hstop, hfinishes⟩
    obtain ⟨slot, first, _, hslot, hfirst, hkey, _⟩ :=
      hwf.exists_slot (Array.mem_of_getElem? hitem)
    have horigin' : first.origin = item.origin := congrArg ItemKey.origin hkey
    have haccepts := (acceptsSlot_iff hfirst).2
      ⟨horigin'.trans horigin, hfinishes.of_key_eq hkey⟩
    rw [hstop] at hslot
    exact ⟨slot, List.mem_filter.2 ⟨hslot, haccepts⟩,
      (hwf.mem_derivations_iff hslot hfirst).2 ⟨item, hitem, hstop, hkey.symm⟩⟩

theorem nodup_acceptingIds : (chart.acceptingIds g).Nodup := by
  have hsublist : (chart.acceptingIds g).Sublist (chart.idsAt chart.inputLength) :=
    List.filter_sublist.flatMap _
  exact (hwf.nodup_idsAt chart.inputLength).sublist hsublist

end Earley.Chart
