import Earley.Proofs.Chart.Add

/-!
# Charts without their alternatives

A chart erases to another one if both have slots for the same keys in the same order, with backpointers
to slots of the same places, and the other one has no alternatives. Ids need not agree, because
alternatives use up ids too. A place is a position and an index among the slots there; places stay what
they are when charts grow.
-/

namespace Earley

namespace Chart

/-- The two slots stand at the same place of their charts. -/
def SamePlace (chart erased : Chart) (slot slot' : ItemId) : Prop :=
  ∃ position index : Nat, (chart.slotsAt position)[index]? = some slot ∧
    (erased.slotsAt position)[index]? = some slot'

/-- The two items differ in nothing but the ids of the slots that they name. -/
structure Alike (chart erased : Chart) (item item' : Item) : Prop where
  key_eq : item.key = item'.key
  stop_eq : item.stop = item'.stop
  backpointers : List.Forall₂ (chart.SamePlace erased) item.backpointers item'.backpointers

/-- The two ids name items that are alike. -/
def NamesAlike (chart erased : Chart) (id id' : ItemId) : Prop :=
  ∃ item item', chart.arena[id]? = some item ∧ erased.arena[id']? = some item' ∧
    chart.Alike erased item item'

/-- The other chart is the chart without its alternatives. -/
structure ErasesTo (chart erased : Chart) : Prop where
  slots : ∀ position,
    List.Forall₂ (chart.NamesAlike erased) (chart.slotsAt position) (erased.slotsAt position)
  no_alternatives : ∀ position slot, erased.alternativesAt position slot = []
  size_columns : erased.columns.size = chart.columns.size

variable {chart chart' erased erased' : Chart} {item item' : Item} {policy : AmbiguityPolicy}
  {insertion insertion' : Insertion}

theorem Alike.rule_eq (h : chart.Alike erased item item') : item.rule = item'.rule :=
  congrArg ItemKey.rule h.key_eq

theorem Alike.origin_eq (h : chart.Alike erased item item') : item.origin = item'.origin :=
  congrArg ItemKey.origin h.key_eq

section Mono

variable (hextends : chart'.Extends chart) (herased : erased'.Extends erased)
include hextends herased

theorem SamePlace.mono {slot slot' : ItemId} (h : chart.SamePlace erased slot slot') :
    chart'.SamePlace erased' slot slot' := by
  obtain ⟨position, index, hslot, hslot'⟩ := h
  exact ⟨position, index, hextends.getElem?_slotsAt hslot, herased.getElem?_slotsAt hslot'⟩

theorem Alike.mono (h : chart.Alike erased item item') : chart'.Alike erased' item item' :=
  { h with backpointers := h.backpointers.imp fun _ _ => SamePlace.mono hextends herased }

theorem NamesAlike.mono {id id' : ItemId} (h : chart.NamesAlike erased id id') :
    chart'.NamesAlike erased' id id' := by
  obtain ⟨item, item', hitem, hitem', halike⟩ := h
  exact ⟨item, item', hextends.arena hitem, herased.arena hitem', halike.mono hextends herased⟩

end Mono

namespace ErasesTo

variable (h : chart.ErasesTo erased)
include h

/-- Slots of the same place name items that are alike. -/
theorem namesAlike {slot slot' : ItemId} (hsame : chart.SamePlace erased slot slot') :
    chart.NamesAlike erased slot slot' := by
  obtain ⟨position, index, hslot, hslot'⟩ := hsame
  obtain ⟨hlt, rfl⟩ := List.getElem?_eq_some_iff.1 hslot
  obtain ⟨hlt', rfl⟩ := List.getElem?_eq_some_iff.1 hslot'
  exact (h.slots position).get hlt hlt'

/-- To each slot there is one of the same place. -/
theorem exists_samePlace {position index : Nat} {slot : ItemId}
    (hslot : (chart.slotsAt position)[index]? = some slot) :
    ∃ slot', (erased.slotsAt position)[index]? = some slot' ∧
      chart.SamePlace erased slot slot' := by
  have hlt := (List.getElem?_eq_some_iff.1 hslot).1
  rw [(h.slots position).length_eq] at hlt
  have hslot' := List.getElem?_eq_getElem hlt
  exact ⟨_, hslot', position, index, hslot, hslot'⟩

/-- Both charts have items for the same keys. -/
theorem holds_iff (hwf : chart.WellFormed) (hwf' : erased.WellFormed) :
    chart.Holds item ↔ erased.Holds item := by
  constructor
  · rintro ⟨other, hother, hkey, hstop⟩
    obtain ⟨slot, first, _, hslot, hfirst, hfirstKey, hfirstStop⟩ := hwf.exists_slot hother
    obtain ⟨slot', _, found, found', hfound, hfound', halike⟩ :=
      exists_partner_of_forall₂ (h.slots other.stop) hslot
    rw [hfirst] at hfound
    cases hfound
    exact ⟨found', Array.mem_of_getElem? hfound', halike.key_eq.symm.trans (hfirstKey.trans hkey),
      halike.stop_eq.symm.trans (hfirstStop.trans hstop)⟩
  · rintro ⟨other, hother, hkey, hstop⟩
    obtain ⟨slot', first, _, hslot, hfirst, hfirstKey, hfirstStop⟩ := hwf'.exists_slot hother
    obtain ⟨slot, _, found, found', hfound, hfound', halike⟩ :=
      exists_mem_of_forall₂ (h.slots other.stop) hslot
    rw [hfirst] at hfound'
    cases hfound'
    exact ⟨found, Array.mem_of_getElem? hfound, halike.key_eq.trans (hfirstKey.trans hkey),
      halike.stop_eq.trans (hfirstStop.trans hstop)⟩

theorem openSlot (halike : chart.Alike erased item item') (hstop : item.stop < chart.columns.size)
    (hstop' : item'.stop < erased.columns.size) :
    (chart.openSlot item).ErasesTo (erased.openSlot item') where
  slots position := by
    have hextends := extends_openSlot hstop
    have herased := extends_openSlot hstop'
    have hold := (h.slots position).imp fun _ _ => NamesAlike.mono hextends herased
    rw [slotsAt_openSlot _ _ hstop, slotsAt_openSlot _ _ hstop', ← halike.stop_eq]
    split_ifs
    · refine List.rel_append hold (.cons ⟨item, item', ?_, ?_, halike.mono hextends herased⟩ .nil)
      · exact getElem?_push_eq_some_iff.2 (.inr ⟨rfl, rfl⟩)
      · exact getElem?_push_eq_some_iff.2 (.inr ⟨rfl, rfl⟩)
    · exact hold
  no_alternatives position slot := by
    rw [alternativesAt_openSlot]
    exact h.no_alternatives position slot
  size_columns := by
    rw [size_columns_openSlot, size_columns_openSlot]
    exact h.size_columns

theorem addAlternative (slot : ItemId) : (chart.addAlternative slot item).ErasesTo erased where
  slots position := by
    rw [slotsAt_addAlternative]
    exact (h.slots position).imp fun _ _ =>
      NamesAlike.mono (extends_addAlternative slot) (.refl erased)
  no_alternatives := h.no_alternatives
  size_columns := by
    rw [size_columns_addAlternative]
    exact h.size_columns

/-- An item whose key has a slot changes nothing but the alternatives. -/
theorem insert_of_holds (hwf : chart.WellFormed) (hholds : chart.Holds item)
    (hinserts : chart.Inserts item policy insertion chart') : chart'.ErasesTo erased := by
  cases hinserts with
  | added hfresh => exact absurd hholds (hwf.slotOf?_eq_none_iff_not_holds.1 hfresh)
  | duplicate => exact h
  | merged => exact h.addAlternative _
  | dropped => exact h

/-- Items that are alike open slots in both charts or in none. -/
theorem insert (hwf : chart.WellFormed) (hwf' : erased.WellFormed)
    (halike : chart.Alike erased item item') (hstop : item.stop < chart.columns.size)
    (hstop' : item'.stop < erased.columns.size)
    (hinserts : chart.Inserts item policy insertion chart')
    (hinserts' : erased.Inserts item' .keepFirst insertion' erased') : chart'.ErasesTo erased' := by
  have hsame : chart.Holds item ↔ erased.Holds item' := by
    rw [h.holds_iff hwf hwf']
    exact ⟨fun hholds => hholds.of_key_eq halike.key_eq halike.stop_eq,
      fun hholds => hholds.of_key_eq halike.key_eq.symm halike.stop_eq.symm⟩
  by_cases hholds : chart.Holds item
  · have herased : erased' = erased := by
      cases hinserts' with
      | added hfresh => exact absurd (hsame.1 hholds) (hwf'.slotOf?_eq_none_iff_not_holds.1 hfresh)
      | duplicate => rfl
      | merged _ _ hpolicy => cases hpolicy
      | dropped => rfl
    exact herased ▸ h.insert_of_holds hwf hholds hinserts
  · have hnone := hwf.slotOf?_eq_none_iff_not_holds.2 hholds
    have hnone' := hwf'.slotOf?_eq_none_iff_not_holds.2 fun hholds' => hholds (hsame.2 hholds')
    have hopened : chart' = chart.openSlot item := hinserts.eq_openSlot hnone
    have hopened' : erased' = erased.openSlot item' := hinserts'.eq_openSlot hnone'
    rw [hopened, hopened']
    exact h.openSlot halike hstop hstop'

end ErasesTo

end Chart

end Earley
