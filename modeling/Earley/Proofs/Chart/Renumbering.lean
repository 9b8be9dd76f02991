import Earley.Proofs.Chart.Columns

/-!
# Charts with other rule numbers

A chart is renumbered when its items name their rules by other numbers and nothing else is changed: the
items have the same ids, and the columns hold the same slots with the same alternatives. Where the new
numbers are told apart like the old ones, charts that are renumbered stay so when corresponding items are
inserted. Columns behind a limit may be left out of the comparison.
-/

namespace Earley

/-- The key with another rule number. -/
def ItemKey.renumber (renumber : RuleId → RuleId) (key : ItemKey) : ItemKey :=
  { key with rule := renumber key.rule }

namespace Item

/-- The item with another rule number. -/
def renumber (renumber : RuleId → RuleId) (item : Item) : Item :=
  { item with rule := renumber item.rule }

variable {renumber : RuleId → RuleId}

@[simp] theorem key_renumber (item : Item) :
    (item.renumber renumber).key = item.key.renumber renumber := rfl

@[simp] theorem stop_renumber (item : Item) : (item.renumber renumber).stop = item.stop := rfl

@[simp] theorem origin_renumber (item : Item) :
    (item.renumber renumber).origin = item.origin := rfl

theorem renumber_injective (hinjective : Function.Injective renumber) :
    Function.Injective (Item.renumber renumber) := by
  intro item other h
  cases item
  cases other
  simp only [Item.renumber, mk.injEq] at h ⊢
  exact ⟨hinjective h.1, h.2⟩

end Item

theorem ItemKey.renumber_injective {renumber : RuleId → RuleId}
    (hinjective : Function.Injective renumber) :
    Function.Injective (ItemKey.renumber renumber) := by
  intro key other h
  cases key
  cases other
  simp only [ItemKey.renumber, mk.injEq] at h ⊢
  exact ⟨hinjective h.1, h.2⟩

namespace Chart

/-- The other chart has the same items under other rule numbers, and its columns up to the limit are the
    same. -/
structure RenumbersTo (chart other : Chart) (renumber : RuleId → RuleId) (limit : Nat) : Prop where
  arena : other.arena = chart.arena.map (Item.renumber renumber)
  slots : ∀ position ≤ limit, other.slotsAt position = chart.slotsAt position
  alternatives : ∀ position ≤ limit, ∀ slot,
    other.alternativesAt position slot = chart.alternativesAt position slot

namespace RenumbersTo

variable {chart chart' other other' : Chart} {renumber : RuleId → RuleId} {limit : Nat}
  (h : chart.RenumbersTo other renumber limit)
include h

theorem getElem?_arena (id : ItemId) :
    other.arena[id]? = (chart.arena[id]?).map (Item.renumber renumber) := by
  rw [h.arena, Array.getElem?_map]

theorem getElem?_arena_of_eq_some {id : ItemId} {item : Item} (hitem : chart.arena[id]? = some item) :
    other.arena[id]? = some (item.renumber renumber) := by
  rw [h.getElem?_arena, hitem, Option.map_some]

omit h in
/-- Charts with the same rule numbers share their columns. -/
theorem sharesColumns (h : chart.RenumbersTo other id limit) :
    chart.SharesColumns other (limit + 1) where
  slots position hposition := (h.slots position (Nat.le_of_lt_succ hposition)).symm
  alternatives position hposition slot :=
    (h.alternatives position (Nat.le_of_lt_succ hposition) slot).symm
  items {slot item} _ := by
    have hsame : Item.renumber id = id := rfl
    rw [h.getElem?_arena, hsame, Option.map_id, id_eq]

theorem size_arena : other.arena.size = chart.arena.size := by
  rw [h.arena, Array.size_map]

variable (hinjective : Function.Injective renumber)
include hinjective

theorem mem_arena_iff {item : Item} : item.renumber renumber ∈ other.arena ↔ item ∈ chart.arena := by
  rw [h.arena, Array.mem_map]
  constructor
  · rintro ⟨found, hfound, heq⟩
    exact Item.renumber_injective hinjective heq ▸ hfound
  · intro hmem
    exact ⟨item, hmem, rfl⟩

/-- Keys that correspond have the same slot. -/
theorem slotOf?_eq (hwf : chart.WellFormed) (hwf' : other.WellFormed) {position : Nat}
    (hposition : position ≤ limit) (key : ItemKey) :
    other.slotOf? position (key.renumber renumber) = chart.slotOf? position key := by
  refine Option.ext fun slot => ⟨fun hslot => ?_, fun hslot => ?_⟩
  · obtain ⟨hmem, found, hfound, hkey⟩ := hwf'.slot_key hslot
    rw [h.slots position hposition] at hmem
    obtain ⟨first, hfirst, _, hof⟩ := hwf.slot_item hmem
    rw [h.getElem?_arena_of_eq_some hfirst] at hfound
    cases hfound
    rw [Item.key_renumber] at hkey
    rw [← ItemKey.renumber_injective hinjective hkey]
    exact hof
  · obtain ⟨hmem, first, hfirst, rfl⟩ := hwf.slot_key hslot
    rw [← h.slots position hposition] at hmem
    obtain ⟨found, hfound, _, hof⟩ := hwf'.slot_item hmem
    rw [h.getElem?_arena_of_eq_some hfirst] at hfound
    cases hfound
    exact hof

variable {item : Item} {policy : AmbiguityPolicy} {insertion : Insertion}

omit hinjective in
theorem openSlot (hstop : item.stop < chart.columns.size) (hstop' : item.stop < other.columns.size) :
    (chart.openSlot item).RenumbersTo (other.openSlot (item.renumber renumber)) renumber limit where
  arena := by rw [arena_openSlot, arena_openSlot, h.arena, Array.map_push]
  slots position hposition := by
    rw [slotsAt_openSlot _ _ hstop, slotsAt_openSlot other (item.renumber renumber) hstop',
      h.slots position hposition, h.size_arena, Item.stop_renumber]
  alternatives position hposition slot := by
    rw [alternativesAt_openSlot, alternativesAt_openSlot, h.alternatives position hposition]

omit hinjective in
theorem addAlternative (hstop : item.stop < chart.columns.size)
    (hstop' : item.stop < other.columns.size) (slot : ItemId) :
    (chart.addAlternative slot item).RenumbersTo
      (other.addAlternative slot (item.renumber renumber)) renumber limit where
  arena := by rw [arena_addAlternative, arena_addAlternative, h.arena, Array.map_push]
  slots position hposition := by
    rw [slotsAt_addAlternative, slotsAt_addAlternative, h.slots position hposition]
  alternatives position hposition found := by
    rw [alternativesAt_addAlternative _ _ _ hstop,
      alternativesAt_addAlternative other slot (item.renumber renumber) hstop',
      h.alternatives position hposition, h.size_arena, Item.stop_renumber]

/-- Inserting items that correspond does the same to both charts. -/
theorem insert (hwf : chart.WellFormed) (hwf' : other.WellFormed) (hlimit : item.stop ≤ limit)
    (hstop : item.stop < chart.columns.size) (hstop' : item.stop < other.columns.size)
    (hinserts : chart.Inserts item policy insertion chart') :
    ∃ other', other.Inserts (item.renumber renumber) policy insertion other' ∧
      chart'.RenumbersTo other' renumber limit := by
  have hslotOf := h.slotOf?_eq hinjective hwf hwf' hlimit item.key
  have hmem : item.renumber renumber ∈ other.arena ↔ item ∈ chart.arena :=
    h.mem_arena_iff hinjective
  cases hinserts with
  | added hfresh =>
    rw [← h.size_arena]
    exact ⟨_, .added (hslotOf.trans hfresh), h.openSlot hstop hstop'⟩
  | duplicate hslot hold => exact ⟨other, .duplicate (hslotOf.trans hslot) (hmem.2 hold), h⟩
  | merged hslot hnew hpolicy =>
    rw [← h.size_arena]
    exact ⟨_, .merged (hslotOf.trans hslot) (mt hmem.1 hnew) hpolicy,
      h.addAlternative hstop hstop' _⟩
  | dropped hslot hnew hpolicy =>
    exact ⟨other, .dropped (hslotOf.trans hslot) (mt hmem.1 hnew) hpolicy, h⟩

end RenumbersTo

end Chart

end Earley
