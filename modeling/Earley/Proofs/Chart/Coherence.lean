import Earley.Proofs.Chart.Columns
import Earley.Proofs.Chart.InPlace
import Earley.Proofs.Chart.Listing

/-!
# Coherent charts

A column names ids at two kinds of places: in its list of slots, and in the list of alternatives of a slot.
However items are added to an empty chart, every id of the arena stands at exactly one place, and slots,
index and alternatives agree with the items that the ids stand for.
-/

namespace Earley.Chart

/-- A place in a column at which an id can stand. -/
inductive Place where
  | slot (position index : Nat)
  | alternative (position : Nat) (slot : ItemId) (index : Nat)

/-- The position of the column. -/
def Place.position : Place → Nat
  | slot position _ => position
  | alternative position _ _ => position

/-- The id at a place. -/
def idAt? (chart : Chart) : Place → Option ItemId
  | .slot position index => (chart.slotsAt position)[index]?
  | .alternative position slot index => (chart.alternativesAt position slot)[index]?

/-- The agreement between the arena, the slots, the index, the alternatives and the size of a chart. -/
structure Coherent (chart : Chart) : Prop where
  /-- Every item stands at one place. -/
  existsUnique_place : ∀ id < chart.arena.size, ∃! place, chart.idAt? place = some id
  /-- What stands at a place is an item that ends there. -/
  item_of_place : ∀ {place id}, chart.idAt? place = some id →
    ∃ item, chart.arena[id]? = some item ∧ item.stop = place.position
  /-- The index of a column leads from the keys of its slots to the slots, and from no other key. -/
  slotOf?_iff : ∀ {position key slot}, chart.slotOf? position key = some slot ↔
    slot ∈ chart.slotsAt position ∧ chart.keyOf? slot = some key
  /-- The slots of a column have different keys. -/
  nodup_keys : ∀ position, (chart.keysAt position).Nodup
  slots_ascend : ∀ position, (chart.slotsAt position).Pairwise (· < ·)
  /-- An alternative belongs to a slot of an earlier item with the same key and the same end. -/
  alternative_of_slot : ∀ {position slot id}, id ∈ chart.alternativesAt position slot →
    slot ∈ chart.slotsAt position ∧ slot < id ∧
      ∃ first item, chart.arena[slot]? = some first ∧ chart.arena[id]? = some item ∧
        item.key = first.key ∧ item.stop = first.stop
  /-- The derivations of a slot differ in their backpointers. -/
  nodup_backpointers : ∀ {position slot}, slot ∈ chart.slotsAt position →
    ∃ items, chart.derivationItems slot = .ok items ∧ (items.map Item.backpointers).Nodup
  /-- The alternatives that are counted are those of the slots. -/
  stats_alternatives : chart.stats.alternatives =
    ((List.range chart.columns.size).map fun position =>
      ((chart.slotsAt position).map fun slot =>
        (chart.alternativesAt position slot).length).sum).sum
  stats_items : chart.stats.items = chart.stats.slots + chart.stats.alternatives

/-- In an ascending list an id has one index. -/
theorem index_unique {ids : List ItemId} (h : ids.Pairwise (· < ·)) {index other : Nat} {id : ItemId}
    (hindex : ids[index]? = some id) (hother : ids[other]? = some id) : index = other :=
  (List.getElem?_inj (List.getElem?_eq_some_iff.1 hindex).1 (h.imp Nat.ne_of_lt)).1
    (hindex.trans hother.symm)

namespace WellFormed

variable {chart : Chart} (hwf : chart.WellFormed)
include hwf

theorem item_of_place {place : Place} {id : ItemId} (h : chart.idAt? place = some id) :
    ∃ item, chart.arena[id]? = some item ∧ item.stop = place.position := by
  cases place with
  | slot position index =>
    obtain ⟨item, hitem, hstop, _⟩ := hwf.slot_item (List.mem_of_getElem? h)
    exact ⟨item, hitem, hstop⟩
  | alternative position slot index =>
    obtain ⟨_, item, hitem, hstop, _⟩ := hwf.alternative_item (List.mem_of_getElem? h)
    exact ⟨item, hitem, hstop⟩

theorem exists_place {id : ItemId} (hid : id < chart.arena.size) :
    ∃ place, chart.idAt? place = some id := by
  obtain ⟨slot, hslot, rfl | hmem⟩ := hwf.item_listed (Array.getElem?_eq_getElem hid)
  · obtain ⟨index, hindex⟩ := List.mem_iff_getElem?.1 (hwf.slot_key hslot).1
    exact ⟨.slot _ index, hindex⟩
  · obtain ⟨index, hindex⟩ := List.mem_iff_getElem?.1 hmem
    exact ⟨.alternative _ slot index, hindex⟩

/-- An id does not stand at two places. -/
theorem place_unique {place other : Place} {id : ItemId} (h : chart.idAt? place = some id)
    (h' : chart.idAt? other = some id) : place = other := by
  obtain ⟨item, hitem, hstop⟩ := hwf.item_of_place h
  obtain ⟨item', hitem', hstop'⟩ := hwf.item_of_place h'
  have hposition : place.position = other.position := by
    rw [hitem] at hitem'
    cases hitem'
    exact hstop.symm.trans hstop'
  cases place with
  | slot position index =>
    cases other with
    | slot position' index' =>
      obtain rfl : position = position' := hposition
      rw [index_unique (hwf.slots_ascend position) h h']
    | alternative position' slot' index' =>
      exact absurd (List.mem_of_getElem? h') (hwf.not_mem_alternativesAt (List.mem_of_getElem? h))
  | alternative position slot index =>
    cases other with
    | slot position' index' =>
      exact absurd (List.mem_of_getElem? h) (hwf.not_mem_alternativesAt (List.mem_of_getElem? h'))
    | alternative position' slot' index' =>
      obtain rfl : position = position' := hposition
      -- The key of the item tells its slot.
      obtain ⟨_, found, hfound, _, hslot⟩ := hwf.alternative_item (List.mem_of_getElem? h)
      obtain ⟨_, found', hfound', _, hslot'⟩ := hwf.alternative_item (List.mem_of_getElem? h')
      rw [hfound] at hfound'
      cases hfound'
      rw [hslot] at hslot'
      cases hslot'
      rw [index_unique (hwf.alternatives_ascend position slot) h h']

/-- An alternative has the key and the position of its slot. -/
theorem alternative_of_slot {position : Nat} {slot id : ItemId}
    (h : id ∈ chart.alternativesAt position slot) :
    slot ∈ chart.slotsAt position ∧ slot < id ∧
      ∃ first item, chart.arena[slot]? = some first ∧ chart.arena[id]? = some item ∧
        item.key = first.key ∧ item.stop = first.stop := by
  obtain ⟨hlt, item, hitem, hstop, hslot⟩ := hwf.alternative_item h
  obtain ⟨hmem, first, hfirst, hkey⟩ := hwf.slot_key hslot
  exact ⟨hmem, hlt, first, item, hfirst, hitem, hkey.symm,
    hstop.trans (hwf.stop_of_mem_slotsAt hmem hfirst).symm⟩

theorem nodup_backpointers {position : Nat} {slot : ItemId} (hslot : slot ∈ chart.slotsAt position) :
    ∃ items, chart.derivationItems slot = .ok items ∧ (items.map Item.backpointers).Nodup := by
  refine ⟨_, hwf.derivationItems_eq_ok hslot, ?_⟩
  obtain ⟨first, hfirst, _⟩ := hwf.slot_item hslot
  have hitems : ((slot :: chart.alternativesAt position slot).filterMap (chart.arena[·]?)).Nodup :=
    (hwf.nodup_derivations position slot).filterMap fun _ _ _ hid hother =>
      hwf.id_eq_of_item_eq hid hother
  refine hitems.map_on fun item hitem other hother hpointers => ?_
  obtain ⟨_, hstop, hkey⟩ := (hwf.mem_derivationItems_iff hslot hfirst).1 hitem
  obtain ⟨_, hstop', hkey'⟩ := (hwf.mem_derivationItems_iff hslot hfirst).1 hother
  exact Item.eq_of_key_eq (hkey.trans hkey'.symm) (hstop.trans hstop'.symm) hpointers

theorem coherent : chart.Coherent where
  existsUnique_place id hid := by
    obtain ⟨place, hplace⟩ := hwf.exists_place hid
    exact ⟨place, hplace, fun other hother => hwf.place_unique hother hplace⟩
  item_of_place := hwf.item_of_place
  slotOf?_iff {position key slot} := by
    constructor
    · intro hslot
      obtain ⟨hmem, item, hitem, rfl⟩ := hwf.slot_key hslot
      exact ⟨hmem, keyOf?_of_eq_some hitem⟩
    · rintro ⟨hmem, hkey⟩
      obtain ⟨item, hitem, _, hslot⟩ := hwf.slot_item hmem
      rw [keyOf?_of_eq_some hitem] at hkey
      cases hkey
      exact hslot
  nodup_keys := hwf.nodup_keysAt
  slots_ascend := hwf.slots_ascend
  alternative_of_slot := hwf.alternative_of_slot
  nodup_backpointers := hwf.nodup_backpointers
  stats_alternatives := hwf.stats_alternatives_eq
  stats_items := hwf.stats_items_eq

end WellFormed

/-- Whatever calls have been made on an empty chart, it is coherent. Later calls change none of its items.
    A call succeeds if the chart has a column for its item, and changes nothing otherwise. -/
theorem coherent_afterAll (length : Nat) (calls : List (Item × AmbiguityPolicy)) :
    let chart := (empty length).afterAll calls
    chart.Coherent ∧ chart.columns.size = length + 1 ∧
      (∀ later (id : ItemId) item, chart.arena[id]? = some item →
        (chart.afterAll later).arena[id]? = some item) ∧
      ∀ item policy,
        if item.stop ≤ length then
          ∃ insertion chart', (addInPlace item policy).run chart = .ok insertion chart'
        else
          (addInPlace item policy).run chart = .error (.noColumn item.stop) chart := by
  intro chart
  obtain ⟨hwf, hextends⟩ := (wellFormed_empty length).wellFormed_afterAll calls
  have hsize : chart.columns.size = length + 1 :=
    hextends.size_columns.trans (size_columns_empty length)
  refine ⟨hwf.coherent, hsize, ?_, ?_⟩
  · intro later id item hitem
    exact (hwf.wellFormed_afterAll later).2.arena hitem
  · intro item policy
    split_ifs with hstop
    · have hlt : item.stop < chart.columns.size := by omega
      obtain ⟨insertion, chart', _, hinserts⟩ := hwf.add_inserts hlt policy
      exact ⟨insertion, chart', hwf.run_addInPlace hinserts hlt⟩
    · exact run_addInPlace_of_le (by omega) policy

end Earley.Chart
