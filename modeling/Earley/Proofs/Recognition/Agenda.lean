import Mathlib.Data.List.Flatten
import Earley.Proofs.Chart.Erasure
import Earley.Proofs.Recognition.Rest

/-!
# Agendas without what alternatives add

A chart with alternatives makes more items than the chart that it erases to. Each of them shares its key
with an item that both charts make, so it opens no slot when its turn comes.
-/

namespace Earley

namespace Chart

/-- The chart has an item for the key, or will have one when these items have entered it. -/
def HoldsWith (chart : Chart) (entering : List Item) (item : Item) : Prop :=
  chart.Holds item ∨ ∃ other ∈ entering, other.key = item.key ∧ other.stop = item.stop

/-- The agenda of the erased chart is the other agenda without some items that open no slots. -/
inductive Covers (chart erased : Chart) : List Item → List Item → List Item → Prop where
  | nil {entering : List Item} : Covers chart erased entering [] []
  | both {entering items items' : List Item} {item item' : Item}
      (halike : chart.Alike erased item item')
      (hrest : Covers chart erased (item :: entering) items items') :
      Covers chart erased entering (item :: items) (item' :: items')
  | extra {entering items items' : List Item} {item : Item}
      (hholds : chart.HoldsWith entering item) (hrest : Covers chart erased entering items items') :
      Covers chart erased entering (item :: items) items'

variable {chart chart' erased erased' : Chart} {item other : Item}
  {entering entering' items items' others others' : List Item}

section Alike

variable {item' : Item}

theorem Alike.scan (h : chart.Alike erased item item') : chart.Alike erased item.scan item'.scan where
  key_eq := by rw [Item.key_scan, Item.key_scan, h.key_eq]
  stop_eq := congrArg Nat.succ h.stop_eq
  backpointers := h.backpointers

theorem Alike.advance (h : chart.Alike erased item item') (position : Nat) {slot slot' : ItemId}
    (hslot : chart.SamePlace erased slot slot') :
    chart.Alike erased (item.advance position slot) (item'.advance position slot') where
  key_eq := by rw [Item.key_advance, Item.key_advance, h.key_eq]
  stop_eq := rfl
  backpointers := List.rel_append h.backpointers (.cons hslot .nil)

theorem alike_predicted (chart erased : Chart) (rule : RuleId) (position : Nat) :
    chart.Alike erased (.predicted rule position) (.predicted rule position) :=
  ⟨rfl, rfl, .nil⟩

end Alike

theorem HoldsWith.of_key_eq (h : chart.HoldsWith entering item) (hkey : item.key = other.key)
    (hstop : item.stop = other.stop) : chart.HoldsWith entering other := by
  rcases h with hholds | ⟨found, hfound, hfoundKey, hfoundStop⟩
  · exact .inl (hholds.of_key_eq hkey hstop)
  · exact .inr ⟨found, hfound, hfoundKey.trans hkey, hfoundStop.trans hstop⟩

theorem HoldsWith.of_mem (hmem : item ∈ entering) : chart.HoldsWith entering item :=
  .inr ⟨item, hmem, rfl, rfl⟩

theorem HoldsWith.mono (h : chart.HoldsWith entering item) (hextends : chart'.Extends chart)
    (hentering : ∀ other ∈ entering, chart'.HoldsWith entering' other) :
    chart'.HoldsWith entering' item := by
  rcases h with hholds | ⟨found, hfound, hkey, hstop⟩
  · exact .inl (hholds.mono hextends)
  · exact (hentering found hfound).of_key_eq hkey hstop

namespace Covers

theorem mono (h : chart.Covers erased entering items items') (hextends : chart'.Extends chart)
    (herased : erased'.Extends erased)
    (hentering : ∀ other ∈ entering, chart'.HoldsWith entering' other) :
    chart'.Covers erased' entering' items items' := by
  induction h generalizing entering' with
  | nil => exact .nil
  | @both entering _ _ item _ halike _ ih =>
    refine .both (halike.mono hextends herased) (ih fun other hother => ?_)
    rcases List.mem_cons.1 hother with rfl | hother
    · exact .of_mem List.mem_cons_self
    · exact (hentering other hother).mono (.refl chart') fun next hnext =>
        .of_mem (List.mem_cons_of_mem item hnext)
  | extra hholds _ ih => exact .extra (hholds.mono hextends hentering) (ih hentering)

theorem append (h : chart.Covers erased entering items items')
    (h' : chart.Covers erased entering others others') :
    chart.Covers erased entering (items ++ others) (items' ++ others') := by
  induction h with
  | nil => exact h'
  | @both entering _ _ item _ halike _ ih =>
    refine .both halike (ih (h'.mono (.refl chart) (.refl erased) fun other hother => ?_))
    exact .of_mem (List.mem_cons_of_mem item hother)
  | extra hholds _ ih => exact .extra hholds (ih h')

theorem flatMap {α β : Type} {R : α → β → Prop} {f : α → List Item} {f' : β → List Item}
    {l : List α} {l' : List β} (h : List.Forall₂ R l l')
    (hcovers : ∀ {a b}, R a b → chart.Covers erased entering (f a) (f' b)) :
    chart.Covers erased entering (l.flatMap f) (l'.flatMap f') := by
  induction h with
  | nil => exact .nil
  | cons hhead _ ih => exact (hcovers hhead).append ih

/-- Items behind others of the same keys open no slots. -/
theorem of_forall₂ (h : List.Forall₂ (chart.Alike erased) items items')
    (hothers : ∀ other ∈ others, chart.HoldsWith (items ++ entering) other) :
    chart.Covers erased entering (items ++ others) items' := by
  induction h generalizing entering with
  | nil =>
    induction others with
    | nil => exact .nil
    | cons other others ih =>
      obtain ⟨hother, hothers⟩ := List.forall_mem_cons.1 hothers
      exact .extra hother (ih hothers)
  | @cons item _ items _ halike _ ih =>
    refine .both halike (ih fun other hother => ?_)
    refine (hothers other hother).mono (.refl chart) fun next hnext => .of_mem ?_
    rw [List.cons_append] at hnext
    exact List.perm_middle.mem_iff.2 hnext

/-- The same rules are predicted. -/
theorem of_predicted (ids : List RuleId) (position : Nat) :
    chart.Covers erased entering (ids.map (Item.predicted · position))
      (ids.map (Item.predicted · position)) := by
  induction ids generalizing entering with
  | nil => exact .nil
  | cons id ids ih => exact .both (alike_predicted chart erased id position) ih

end Covers

section Nullable

variable {N : Type} [DecidableEq N] {nullable nullable' : List (N × ItemId)}

/-- The same empty derivations are known. -/
def SameNullable (chart erased : Chart) (nullable nullable' : List (N × ItemId)) : Prop :=
  List.Forall₂ (fun known known' => known.1 = known'.1 ∧ chart.SamePlace erased known.2 known'.2)
    nullable nullable'

omit [DecidableEq N] in
theorem SameNullable.mono (h : chart.SameNullable erased nullable nullable')
    (hextends : chart'.Extends chart) (herased : erased'.Extends erased) :
    chart'.SameNullable erased' nullable nullable' :=
  h.imp fun _ _ hsame => ⟨hsame.1, hsame.2.mono hextends herased⟩

theorem SameNullable.alike_stepOver (h : chart.SameNullable erased nullable nullable') {item' : Item}
    (halike : chart.Alike erased item item') (position : Nat) (head : N) :
    List.Forall₂ (chart.Alike erased) (Recognition.stepOver position nullable head item)
      (Recognition.stepOver position nullable' head item') := by
  unfold Recognition.stepOver Recognition.emptyDerivations
  simp only [List.forall₂_map_left_iff, List.forall₂_map_right_iff]
  have hfiltered : List.Forall₂
      (fun known known' => known.1 = known'.1 ∧ chart.SamePlace erased known.2 known'.2)
      (nullable.filter (·.1 = head)) (nullable'.filter (·.1 = head)) := by
    refine List.rel_filter ?_ h
    intro known known' hsame
    simp only [decide_eq_true_eq, hsame.1]
  exact hfiltered.imp fun _ _ hsame => halike.advance position hsame.2

end Nullable

namespace ErasesTo

variable {T N H : Type} [DecidableEq N] {g : Grammar T N H} {position : Nat} {head : N}
  {slot slot' : ItemId} {f f' : Item → List Item}
  (h : chart.ErasesTo erased) (hwf : chart.WellFormed)
  (hf : ∀ {item item'}, chart.Alike erased item item' →
    List.Forall₂ (chart.Alike erased) (f item) (f' item'))
  (hkeys : ∀ {item other}, item.key = other.key → item.stop = other.stop → ∀ next ∈ f other,
    ∃ found ∈ f item, found.key = next.key ∧ found.stop = next.stop)
include h hwf hf hkeys

/-- What is made of the alternatives of a slot shares the keys of what is made of the slot. -/
theorem covers_itemsOf (hslot : slot ∈ chart.slotsAt position)
    (halike : chart.NamesAlike erased slot slot') :
    chart.Covers erased entering ((chart.itemsOf position slot).flatMap f)
      ((erased.itemsOf position slot').flatMap f') := by
  obtain ⟨first, first', hfirst, hfirst', halike⟩ := halike
  have hitems : chart.itemsOf position slot =
      first :: (chart.alternativesAt position slot).filterMap (chart.arena[·]?) :=
    List.filterMap_cons_some hfirst
  have hitems' : erased.itemsOf position slot' = [first'] := by
    unfold itemsOf
    rw [h.no_alternatives, List.filterMap_cons_some hfirst', List.filterMap_nil]
  rw [hitems', hitems, List.flatMap_cons, List.flatMap_singleton]
  refine .of_forall₂ (hf halike) fun next hnext => .inr ?_
  obtain ⟨other, hother, hnext⟩ := List.mem_flatMap.1 hnext
  have hmem : other ∈ chart.itemsOf position slot := hitems ▸ List.mem_cons_of_mem first hother
  obtain ⟨_, hstop, hkey⟩ := (hwf.mem_derivationItems_iff hslot hfirst).1 hmem
  have hend := (hwf.stop_of_mem_slotsAt hslot hfirst).trans hstop.symm
  obtain ⟨found, hfound, hsame⟩ := hkeys hkey.symm hend next hnext
  exact ⟨found, List.mem_append_left _ hfound, hsame⟩

theorem covers_parents (position : Nat) :
    chart.Covers erased entering ((chart.parents g position head).flatMap f)
      ((erased.parents g position head).flatMap f') := by
  have hslots : List.Forall₂ (fun slot slot' =>
        slot ∈ chart.slotsAt position ∧ chart.NamesAlike erased slot slot')
      ((chart.slotsAt position).filter (chart.waitsFor g head))
      ((erased.slotsAt position).filter (erased.waitsFor g head)) := by
    refine List.rel_filter ?_ ((List.forall₂_and_left _ _).2 ⟨fun _ => id, h.slots position⟩)
    rintro slot slot' ⟨_, item, item', hitem, hitem', halike⟩
    exact (waitsFor_iff hitem).trans (.trans (Item.expects_congr halike.key_eq)
      (waitsFor_iff hitem').symm)
  unfold parents
  rw [List.flatMap_assoc, List.flatMap_assoc]
  exact .flatMap hslots fun hslot => h.covers_itemsOf hwf hf hkeys hslot.1 hslot.2

end ErasesTo

namespace ErasesTo

variable {T N H : Type} [DecidableEq N] {g : Grammar T N H} {position : Nat} {slot slot' : ItemId}
  (h : chart.ErasesTo erased) (hwf : chart.WellFormed)
include h hwf

theorem covers_scan (hslot : slot ∈ chart.slotsAt position)
    (halike : chart.NamesAlike erased slot slot') :
    chart.Covers erased entering ((chart.itemsOf position slot).map Item.scan)
      ((erased.itemsOf position slot').map Item.scan) := by
  rw [List.map_eq_flatMap, List.map_eq_flatMap]
  refine h.covers_itemsOf hwf (fun halike => .cons halike.scan .nil) ?_ hslot halike
  intro item other hkey hstop next hnext
  obtain rfl := List.mem_singleton.1 hnext
  refine ⟨item.scan, List.mem_singleton_self _, ?_, ?_⟩
  · rw [Item.key_scan, Item.key_scan, hkey]
  · rw [Item.stop_scan, Item.stop_scan, hstop]

theorem covers_stepOver {nullable nullable' : List (N × ItemId)}
    (hnullable : chart.SameNullable erased nullable nullable')
    (hslot : slot ∈ chart.slotsAt position) (halike : chart.NamesAlike erased slot slot')
    (head : N) :
    chart.Covers erased entering
      ((chart.itemsOf position slot).flatMap (Recognition.stepOver position nullable head))
      ((erased.itemsOf position slot').flatMap (Recognition.stepOver position nullable' head)) := by
  refine h.covers_itemsOf hwf (fun halike => hnullable.alike_stepOver halike position head) ?_ hslot
    halike
  intro item other hkey _ next hnext
  obtain ⟨id, hid, rfl⟩ := Recognition.mem_stepOver_iff.1 hnext
  refine ⟨item.advance position id, Recognition.mem_stepOver_iff.2 ⟨id, hid, rfl⟩, ?_, rfl⟩
  rw [Item.key_advance, Item.key_advance, hkey]

theorem covers_advance (hsame : chart.SamePlace erased slot slot') (g : Grammar T N H)
    (origin position : Nat) (head : N) :
    chart.Covers erased entering ((chart.parents g origin head).map (·.advance position slot))
      ((erased.parents g origin head).map (·.advance position slot')) := by
  rw [List.map_eq_flatMap, List.map_eq_flatMap]
  refine h.covers_parents hwf (fun halike => .cons (halike.advance position hsame) .nil) ?_ origin
  intro item other hkey _ next hnext
  obtain rfl := List.mem_singleton.1 hnext
  refine ⟨item.advance position slot, List.mem_singleton_self _, ?_, rfl⟩
  rw [Item.key_advance, Item.key_advance, hkey]

end ErasesTo

end Chart

end Earley
