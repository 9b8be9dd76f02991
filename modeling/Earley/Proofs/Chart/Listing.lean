import Mathlib.Algebra.BigOperators.Group.Finset.Basic
import Mathlib.Algebra.BigOperators.Group.List.Basic
import Mathlib.Algebra.GroupWithZero.Nat
import Mathlib.Data.List.Range
import Earley.Proofs.Chart.WellFormed

/-!
# The ids that a chart lists

The columns of a well-formed chart list every id of the arena once, as a slot or as an alternative. So the
items of the chart are as many as its slots and its alternatives together.
-/

namespace Earley

/-- The table of alternatives holds those of the slots and no others. -/
theorem Column.alternativeCount_eq {column : Column} (hnodup : column.slots.toList.Nodup)
    (hslots : ∀ slot, column.alternativesOf slot ≠ [] → slot ∈ column.slots.toList) :
    column.alternativeCount =
      (column.slots.toList.map fun slot => (column.alternativesOf slot).length).sum := by
  have hentries : column.alternatives.toList.map (fun entry => entry.2.length) =
      column.alternatives.keys.map fun slot => (column.alternativesOf slot).length := by
    rw [← Std.TreeMap.map_fst_toList_eq_keys, List.map_map]
    refine List.map_congr_left fun entry hentry => ?_
    have hfound := Std.TreeMap.mem_toList_iff_getElem?_eq_some.1 hentry
    rw [Function.comp_apply, alternativesOf, Std.TreeMap.getD_eq_getD_getElem?, hfound,
      Option.getD_some]
  rw [alternativeCount, ← List.sum_eq_foldl_nat, hentries, ← List.sum_toFinset _ hnodup,
    ← List.sum_toFinset _ Std.TreeMap.nodup_keys]
  -- Both sums leave out only slots without alternatives.
  refine Finset.sum_congr_of_eq_on_inter ?_ ?_ fun _ _ _ => rfl
  · intro slot _ hnot
    by_contra hlength
    exact hnot (List.mem_toFinset.2 (hslots slot fun hnil => hlength (hnil ▸ rfl)))
  · intro slot _ hnot
    have hnone : slot ∉ column.alternatives := fun hmem =>
      hnot (List.mem_toFinset.2 (Std.TreeMap.mem_keys.2 hmem))
    rw [alternativesOf, Std.TreeMap.getD_eq_fallback hnone, List.length_nil]

namespace Chart

variable {chart : Chart}

/-- The slots at a position, each followed by its alternatives. -/
def idsAt (chart : Chart) (position : Nat) : List ItemId :=
  (chart.slotsAt position).flatMap fun slot => slot :: chart.alternativesAt position slot

/-- The ids of all columns. -/
def listedIds (chart : Chart) : List ItemId :=
  (List.range chart.columns.size).flatMap chart.idsAt

namespace WellFormed

variable (hwf : chart.WellFormed)
include hwf

/-- A column lists the items that end there. -/
theorem mem_idsAt_iff {position : Nat} {id : ItemId} :
    id ∈ chart.idsAt position ↔ ∃ item, chart.arena[id]? = some item ∧ item.stop = position := by
  unfold idsAt
  rw [List.mem_flatMap]
  constructor
  · rintro ⟨slot, hslot, hid⟩
    obtain ⟨first, hfirst, _⟩ := hwf.slot_item hslot
    obtain ⟨item, hitem, hstop, _⟩ := (hwf.mem_derivations_iff hslot hfirst).1 hid
    exact ⟨item, hitem, hstop⟩
  · rintro ⟨item, hitem, rfl⟩
    obtain ⟨slot, first, _, hslot, hfirst, hkey, _⟩ :=
      hwf.exists_slot (Array.mem_of_getElem? hitem)
    exact ⟨slot, hslot, (hwf.mem_derivations_iff hslot hfirst).2 ⟨item, hitem, rfl, hkey.symm⟩⟩

/-- The derivations of a slot have different ids. -/
theorem nodup_derivations (position : Nat) (slot : ItemId) :
    (slot :: chart.alternativesAt position slot).Nodup := by
  refine List.nodup_cons.2 ⟨?_, (hwf.alternatives_ascend position slot).imp Nat.ne_of_lt⟩
  intro hmem
  exact Nat.lt_irrefl slot (hwf.alternative_item hmem).1

theorem nodup_idsAt (position : Nat) : (chart.idsAt position).Nodup := by
  refine List.nodup_flatMap.2 ⟨fun slot _ => hwf.nodup_derivations position slot, ?_⟩
  refine List.Pairwise.imp_of_mem ?_ (hwf.slots_ascend position)
  intro slot other hslot hother hlt id hid hid'
  -- An id in both lists has the key of both slots.
  obtain ⟨first, hfirst, _, hkey⟩ := hwf.slot_item hslot
  obtain ⟨second, hsecond, _, hkey'⟩ := hwf.slot_item hother
  obtain ⟨item, hitem, _, hsame⟩ := (hwf.mem_derivations_iff hslot hfirst).1 hid
  obtain ⟨item', hitem', _, hsame'⟩ := (hwf.mem_derivations_iff hother hsecond).1 hid'
  rw [hitem] at hitem'
  cases hitem'
  rw [← hsame] at hkey
  rw [← hsame', hkey] at hkey'
  exact Nat.ne_of_lt hlt (Option.some.inj hkey')

theorem mem_listedIds_iff {id : ItemId} : id ∈ chart.listedIds ↔ id < chart.arena.size := by
  unfold listedIds
  simp only [List.mem_flatMap, List.mem_range, hwf.mem_idsAt_iff]
  constructor
  · rintro ⟨_, _, item, hitem, _⟩
    exact lt_size_of_getElem? hitem
  · intro hlt
    have hitem := Array.getElem?_eq_getElem hlt
    exact ⟨_, hwf.stop_lt hitem, _, hitem, rfl⟩

/-- No id is listed twice. -/
theorem nodup_listedIds : chart.listedIds.Nodup := by
  refine List.nodup_flatMap.2 ⟨fun position _ => hwf.nodup_idsAt position, ?_⟩
  refine List.nodup_range.imp fun hne id hid hid' => ?_
  obtain ⟨item, hitem, hstop⟩ := hwf.mem_idsAt_iff.1 hid
  obtain ⟨item', hitem', hstop'⟩ := hwf.mem_idsAt_iff.1 hid'
  rw [hitem] at hitem'
  cases hitem'
  exact hne (hstop.symm.trans hstop')

theorem length_listedIds : chart.listedIds.length = chart.arena.size := by
  have hperm : chart.listedIds.Perm (List.range chart.arena.size) := by
    rw [List.perm_ext_iff_of_nodup hwf.nodup_listedIds List.nodup_range]
    intro id
    rw [hwf.mem_listedIds_iff, List.mem_range]
  rw [hperm.length_eq, List.length_range]

end WellFormed

section Stats

/-- Counting over the columns is counting over the positions. -/
theorem map_columns_eq {α : Type} {f : Column → α} {g : Nat → α}
    (h : ∀ position column, chart.columns[position]? = some column → f column = g position) :
    chart.columns.toList.map f = (List.range chart.columns.size).map g := by
  refine List.ext_getElem (by simp) fun position hlt _ => ?_
  rw [List.length_map, Array.length_toList] at hlt
  rw [List.getElem_map, List.getElem_map, List.getElem_range, Array.getElem_toList]
  exact h position _ (Array.getElem?_eq_getElem hlt)

theorem stats_slots_eq (chart : Chart) :
    chart.stats.slots =
      ((List.range chart.columns.size).map fun position => (chart.slotsAt position).length).sum := by
  simp only [stats, ← List.sum_eq_foldl_nat]
  refine congrArg List.sum (map_columns_eq ?_)
  intro position column hcolumn
  rw [slotsAt_of_column hcolumn, Array.length_toList]

/-- The alternatives that are counted are those of the slots. -/
theorem WellFormed.stats_alternatives_eq (hwf : chart.WellFormed) :
    chart.stats.alternatives =
      ((List.range chart.columns.size).map fun position =>
        ((chart.slotsAt position).map fun slot =>
          (chart.alternativesAt position slot).length).sum).sum := by
  simp only [stats, ← List.sum_eq_foldl_nat]
  refine congrArg List.sum (map_columns_eq ?_)
  intro position column hcolumn
  simp only [slotsAt_of_column hcolumn, alternativesAt_of_column hcolumn]
  refine Column.alternativeCount_eq ?_ fun slot hne => ?_
  · rw [← slotsAt_of_column hcolumn]
    exact (hwf.slots_ascend position).imp Nat.ne_of_lt
  · rw [← alternativesAt_of_column hcolumn] at hne
    obtain ⟨id, hid⟩ := List.exists_mem_of_ne_nil _ hne
    obtain ⟨_, _, _, _, hslot⟩ := hwf.alternative_item hid
    rw [← slotsAt_of_column hcolumn]
    exact (hwf.slot_key hslot).1

theorem length_idsAt (position : Nat) :
    (chart.idsAt position).length = (chart.slotsAt position).length +
      ((chart.slotsAt position).map fun slot => (chart.alternativesAt position slot).length).sum := by
  unfold idsAt
  induction chart.slotsAt position with
  | nil => rfl
  | cons slot slots ih =>
    rw [List.flatMap_cons, List.length_append, ih, List.map_cons, List.sum_cons, List.length_cons,
      List.length_cons]
    omega

/-- The items of a well-formed chart are its slots and its alternatives. -/
theorem WellFormed.stats_items_eq (hwf : chart.WellFormed) :
    chart.stats.items = chart.stats.slots + chart.stats.alternatives := by
  have hlength := hwf.length_listedIds
  rw [listedIds, List.length_flatMap] at hlength
  rw [stats_slots_eq, hwf.stats_alternatives_eq, ← List.sum_map_add]
  simp only [← length_idsAt]
  exact hlength.symm

/-- Charts with as many items, and as many slots at each position, have the same size. -/
theorem WellFormed.stats_eq {other : Chart} (hwf : chart.WellFormed) (hwf' : other.WellFormed)
    (hcolumns : other.columns.size = chart.columns.size)
    (hslots : ∀ position, (other.slotsAt position).length = (chart.slotsAt position).length)
    (hitems : other.arena.size = chart.arena.size) : other.stats = chart.stats := by
  have hslots : other.stats.slots = chart.stats.slots := by
    simp only [stats_slots_eq, hcolumns, hslots]
  have halternatives : other.stats.alternatives = chart.stats.alternatives := by
    have hcount := hwf.stats_items_eq
    have hcount' := hwf'.stats_items_eq
    have hsame : other.stats.items = chart.stats.items := hitems
    omega
  calc other.stats
      = ⟨other.stats.columns, other.stats.slots, other.stats.alternatives, other.stats.items⟩ := rfl
    _ = ⟨chart.stats.columns, chart.stats.slots, chart.stats.alternatives, chart.stats.items⟩ := by
      rw [hslots, halternatives]
      exact congrArg₂ (ChartStats.mk · chart.stats.slots chart.stats.alternatives ·) hcolumns hitems
    _ = chart.stats := rfl

end Stats

end Chart

end Earley
