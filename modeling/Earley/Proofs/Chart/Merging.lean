import Earley.Proofs.Chart.Columns
import Earley.Proofs.Chart.InPlace
import Earley.Proofs.Chart.Listing

/-!
# Merging

With merging, which of several derivations occupies the slot of their key depends on the order in which they
come. What does not depend on it is the set of derivations of each key, and therefore the size of the chart.
-/

namespace Earley.Chart

variable {chart chart' other : Chart} {item : Item} {policy : AmbiguityPolicy} {insertion : Insertion}
  {position : Nat} {key : ItemKey}

/-- Adds items one after another, and keeps all their derivations. -/
def mergeAll (chart : Chart) : List Item → Except Fault Chart
  | [] => .ok chart
  | item :: items => do
    let (_, chart') ← chart.add item .merge
    chart'.mergeAll items

/-- The backpointers of the derivations that a column has for a key. -/
def derivationsOf (chart : Chart) (position : Nat) (key : ItemKey) : Set (List ItemId) :=
  {pointers | ∃ slot items, chart.slotOf? position key = some slot ∧
    chart.derivationItems slot = .ok items ∧ ∃ item ∈ items, item.backpointers = pointers}

/-- With merging, an insertion puts the item into the arena if it is not there yet. -/
theorem Inserts.mem_arena_iff (h : chart.Inserts item .merge insertion chart') {other : Item} :
    other ∈ chart'.arena ↔ other ∈ chart.arena ∨ other = item := by
  cases h with
  | added => exact Array.mem_push
  | duplicate _ hmem =>
    constructor
    · exact .inl
    · rintro (hother | rfl)
      · exact hother
      · exact hmem
  | merged => exact Array.mem_push
  | dropped _ _ hpolicy => cases hpolicy

namespace WellFormed

/-- Adding items that end in columns of the chart succeeds. Afterwards the arena holds these items and those
    that it held before. -/
theorem exists_mergeAll (hwf : chart.WellFormed) {items : List Item}
    (hstops : ∀ item ∈ items, item.stop < chart.columns.size) :
    ∃ chart', chart.mergeAll items = .ok chart' ∧ chart'.WellFormed ∧
      chart'.columns.size = chart.columns.size ∧
      ∀ item, item ∈ chart'.arena ↔ item ∈ chart.arena ∨ item ∈ items := by
  induction items generalizing chart with
  | nil => exact ⟨chart, rfl, hwf, rfl, fun item => by simp⟩
  | cons first items ih =>
    have hstop := hstops first List.mem_cons_self
    obtain ⟨insertion, next, hadd, hinserts⟩ := hwf.add_inserts hstop .merge
    have hsize := (hinserts.chart_extends hstop).size_columns
    obtain ⟨chart', hrun, hwf', hsize', hmem⟩ := ih (hinserts.wellFormed hwf hstop)
      fun item hitem => hsize ▸ hstops item (List.mem_cons_of_mem first hitem)
    refine ⟨chart', bind_eq_ok_iff.2 ⟨_, hadd, hrun⟩, hwf', hsize'.trans hsize, fun item => ?_⟩
    rw [hmem, hinserts.mem_arena_iff, List.mem_cons, or_assoc]

/-- The derivations of a key are the items of that key at the position. -/
theorem mem_derivationsOf_iff (hwf : chart.WellFormed) {pointers : List ItemId} :
    pointers ∈ chart.derivationsOf position key ↔
      ∃ item ∈ chart.arena, item.stop = position ∧ item.key = key ∧ item.backpointers = pointers := by
  constructor
  · rintro ⟨slot, items, hslot, hitems, item, hitem, hpointers⟩
    obtain ⟨hmem, first, hfirst, rfl⟩ := hwf.slot_key hslot
    rw [hwf.derivationItems_eq_ok hmem] at hitems
    cases hitems
    obtain ⟨harena, hstop, hkey⟩ := (hwf.mem_derivationItems_iff hmem hfirst).1 hitem
    exact ⟨item, harena, hstop, hkey, hpointers⟩
  · rintro ⟨item, harena, rfl, rfl, hpointers⟩
    obtain ⟨slot, first, hslot, hmem, hfirst, hkey, _⟩ := hwf.exists_slot harena
    refine ⟨slot, _, hslot, hwf.derivationItems_eq_ok hmem, item, ?_, hpointers⟩
    exact (hwf.mem_derivationItems_iff hmem hfirst).2 ⟨harena, rfl, hkey.symm⟩

/-- The keys of a column are those of the items that end there. -/
theorem mem_keysAt_iff_exists_item (hwf : chart.WellFormed) :
    key ∈ chart.keysAt position ↔ ∃ item ∈ chart.arena, item.stop = position ∧ item.key = key := by
  rw [mem_keysAt_iff]
  constructor
  · rintro ⟨slot, hslot, item, hitem, hkey⟩
    exact ⟨item, Array.mem_of_getElem? hitem, hwf.stop_of_mem_slotsAt hslot hitem, hkey⟩
  · rintro ⟨item, harena, rfl, rfl⟩
    obtain ⟨slot, first, _, hslot, hfirst, hkey, _⟩ := hwf.exists_slot harena
    exact ⟨slot, hslot, first, hfirst, hkey⟩

/-- A derivation that its key has already is turned away by either policy. -/
theorem add_duplicate (hwf : chart.WellFormed)
    (h : item.backpointers ∈ chart.derivationsOf item.stop item.key) (policy : AmbiguityPolicy) :
    ∃ slot, chart.slotOf? item.stop item.key = some slot ∧
      chart.add item policy = .ok (.duplicate slot, chart) := by
  obtain ⟨found, harena, hstop, hkey, hpointers⟩ := hwf.mem_derivationsOf_iff.1 h
  obtain rfl := Item.eq_of_key_eq hkey hstop hpointers
  obtain ⟨slot, _, hslot, _⟩ := hwf.exists_slot harena
  obtain ⟨id, hid⟩ := Array.mem_iff_getElem?.1 harena
  exact ⟨slot, hslot, hwf.add_eq_ok (.duplicate hslot harena) (hwf.stop_lt hid)⟩

section SameItems

variable (hwf : chart.WellFormed) (hwf' : other.WellFormed)
  (hitems : ∀ item, item ∈ other.arena ↔ item ∈ chart.arena)
include hwf hwf' hitems

/-- Charts of the same items have the same keys at each position, -/
theorem perm_keysAt (position : Nat) : (other.keysAt position).Perm (chart.keysAt position) := by
  rw [List.perm_ext_iff_of_nodup (hwf'.nodup_keysAt position) (hwf.nodup_keysAt position)]
  intro key
  simp only [hwf.mem_keysAt_iff_exists_item, hwf'.mem_keysAt_iff_exists_item, hitems]

/-- the same derivations of each key, -/
theorem derivationsOf_eq (position : Nat) (key : ItemKey) :
    other.derivationsOf position key = chart.derivationsOf position key := by
  ext pointers
  simp only [hwf.mem_derivationsOf_iff, hwf'.mem_derivationsOf_iff, hitems]

/-- and the same size. -/
theorem stats_eq_of_mem_iff (hcolumns : other.columns.size = chart.columns.size) :
    other.stats = chart.stats := by
  have harena : other.arena.toList.Perm chart.arena.toList := by
    rw [List.perm_ext_iff_of_nodup hwf'.arena_nodup hwf.arena_nodup]
    intro item
    rw [Array.mem_toList_iff, Array.mem_toList_iff, hitems]
  refine hwf.stats_eq hwf' hcolumns (fun position => ?_) harena.length_eq
  rw [← hwf'.length_keysAt, ← hwf.length_keysAt]
  exact (hwf.perm_keysAt hwf' hitems position).length_eq

end SameItems

end WellFormed

/-- Items that are merged into an empty chart leave their backpointers as the derivations of their keys.
    Their order changes neither the keys of the columns, nor the derivations, nor the size of the chart.
    Whatever has been added to an empty chart, a derivation that it has already is found to be a duplicate
    of the slot of its key, and the chart stays as it is. -/
theorem merging_collects_derivations (length : Nat) {items items' : List Item}
    (hperm : items.Perm items') (hstops : ∀ item ∈ items, item.stop ≤ length) :
    (∃ chart chart', (empty length).mergeAll items = .ok chart ∧
      (empty length).mergeAll items' = .ok chart' ∧
      (∀ position, (chart'.keysAt position).Perm (chart.keysAt position)) ∧
      (∀ position key, chart'.derivationsOf position key = chart.derivationsOf position key ∧
        chart.derivationsOf position key = {pointers |
          ∃ item ∈ items, item.stop = position ∧ item.key = key ∧ item.backpointers = pointers}) ∧
      chart'.stats = chart.stats) ∧
    ∀ calls item policy, let chart := (empty length).afterAll calls
      item.backpointers ∈ chart.derivationsOf item.stop item.key →
        ∃ slot, chart.slotOf? item.stop item.key = some slot ∧
          chart.add item policy = .ok (.duplicate slot, chart) := by
  have hempty := wellFormed_empty length
  constructor
  · have hlt : ∀ item ∈ items, item.stop < (empty length).columns.size := by
      intro item hitem
      rw [size_columns_empty]
      exact Nat.lt_succ_of_le (hstops item hitem)
    obtain ⟨chart, hrun, hwf, hsize, hmem⟩ := hempty.exists_mergeAll hlt
    obtain ⟨chart', hrun', hwf', hsize', hmem'⟩ :=
      hempty.exists_mergeAll fun item hitem => hlt item (hperm.mem_iff.2 hitem)
    have hitems : ∀ item, item ∈ chart'.arena ↔ item ∈ chart.arena := by
      intro item
      rw [hmem, hmem', hperm.mem_iff]
    refine ⟨chart, chart', hrun, hrun', hwf.perm_keysAt hwf' hitems, fun position key => ⟨?_, ?_⟩,
      hwf.stats_eq_of_mem_iff hwf' hitems (hsize'.trans hsize.symm)⟩
    · exact hwf.derivationsOf_eq hwf' hitems position key
    · ext pointers
      have harena : ∀ item, item ∈ chart.arena ↔ item ∈ items := by simpa [empty] using hmem
      simp only [hwf.mem_derivationsOf_iff, harena, Set.mem_ofPred_eq]
  · intro calls item policy chart hpointers
    exact (hempty.wellFormed_afterAll calls).1.add_duplicate hpointers policy

/-- Two derivations of one key. -/
def twoDerivations : List Item :=
  [⟨0, 1, 0, 1, [7]⟩, ⟨0, 1, 0, 1, [8]⟩]

/-- Either of them may come first. -/
theorem merging_collects_derivations_two :
    twoDerivations.Perm twoDerivations.reverse ∧ (∀ item ∈ twoDerivations, item.stop ≤ 1) ∧
      (∃ chart chart', (empty 1).mergeAll twoDerivations = .ok chart ∧
        (empty 1).mergeAll twoDerivations.reverse = .ok chart' ∧
        (∀ position, (chart'.keysAt position).Perm (chart.keysAt position)) ∧
        (∀ position key, chart'.derivationsOf position key = chart.derivationsOf position key ∧
          chart.derivationsOf position key = {pointers | ∃ item ∈ twoDerivations,
            item.stop = position ∧ item.key = key ∧ item.backpointers = pointers}) ∧
        chart'.stats = chart.stats) ∧
      ∀ calls item policy, let chart := (empty 1).afterAll calls
        item.backpointers ∈ chart.derivationsOf item.stop item.key →
          ∃ slot, chart.slotOf? item.stop item.key = some slot ∧
            chart.add item policy = .ok (.duplicate slot, chart) :=
  have hperm : twoDerivations.Perm twoDerivations.reverse := twoDerivations.reverse_perm.symm
  have hstops : ∀ item ∈ twoDerivations, item.stop ≤ 1 := by decide
  ⟨hperm, hstops, merging_collects_derivations 1 hperm hstops⟩

end Earley.Chart
