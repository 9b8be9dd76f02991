import Earley.Proofs.Chart.Columns
import Earley.Proofs.Recognition.Filled
import Earley.Proofs.Recognition.Rest

/-!
# Charts without alternatives

Where first derivations are kept, no slot ever gets an alternative. Then a column is nothing but its slots,
and what a slot yields follows from keys, as far as backpointers are left out.
-/

namespace Earley

/-- Whether the nonterminal `head` stands behind the dot of items of this key. -/
def ItemKey.waitsFor {T N H : Type} [DecidableEq N] (key : ItemKey) (g : Grammar T N H) (head : N) :
    Bool :=
  ((g.rules[key.rule]?).bind (·.symbol? key.dot)).bind Symbol.nonterminal? = some head

/-- The position that an item enters, and its key there. -/
def Item.destination (item : Item) : Nat × ItemKey :=
  (item.stop, item.key)

namespace Chart

/-- No slot of the chart has alternatives. -/
def Plain (chart : Chart) : Prop :=
  ∀ position slot, chart.alternativesAt position slot = []

variable {T N H : Type} [DecidableEq N] {chart chart' : Chart} {item other : Item}
  {policy : AmbiguityPolicy} {insertion : Insertion}

theorem waitsFor_eq (g : Grammar T N H) (head : N) (id : ItemId) :
    chart.waitsFor g head id = (chart.keyOf? id).any (·.waitsFor g head) := by
  unfold waitsFor keyOf?
  cases chart.arena[id]? with
  | none => rfl
  | some item =>
    have hkey : item.key.waitsFor g head = decide
        (((g.rules[item.rule]?).bind (·.symbol? item.dot)).bind Symbol.nonterminal? = some head) := rfl
    simp only [Option.map_some, Option.any_some, hkey]
    cases g.rules[item.rule]? <;> simp

namespace Plain

variable (h : chart.Plain)
include h

theorem insert (hpolicy : policy = .keepFirst)
    (hinserts : chart.Inserts item policy insertion chart') : chart'.Plain := by
  intro position slot
  cases hinserts with
  | added => rw [alternativesAt_openSlot, h]
  | duplicate => exact h position slot
  | merged _ _ hmerge => cases hpolicy.symm.trans hmerge
  | dropped => exact h position slot

theorem itemsOf_eq (position : Nat) (slot : ItemId) :
    chart.itemsOf position slot = (chart.arena[slot]?).toList := by
  rw [itemsOf, h]
  cases hitem : chart.arena[slot]? <;> simp [hitem]

/-- The keys of the items that wait at a position. -/
theorem map_key_parents (g : Grammar T N H) (position : Nat) (head : N) :
    (chart.parents g position head).map Item.key =
      (chart.keysAt position).filter (·.waitsFor g head) := by
  unfold parents keysAt
  induction chart.slotsAt position with
  | nil => rfl
  | cons slot slots ih =>
    cases hitem : chart.arena[slot]? with
    | none =>
      have hkey : chart.keyOf? slot = none := by rw [keyOf?, hitem, Option.map_none]
      have hwaits : ¬ chart.waitsFor g head slot := by simp [waitsFor_eq, hkey]
      rw [List.filter_cons_of_neg hwaits, List.filterMap_cons_none hkey, ih]
    | some item =>
      have hkey := keyOf?_of_eq_some hitem
      have hwaits : chart.waitsFor g head slot = item.key.waitsFor g head := by simp [waitsFor_eq, hkey]
      rw [List.filterMap_cons_some hkey, List.filter_cons, List.filter_cons, hwaits]
      split_ifs
      · rw [List.flatMap_cons, h.itemsOf_eq, hitem, Option.toList_some, List.singleton_append,
          List.map_cons, ih]
      · exact ih

/-- Items are told by their keys and positions. -/
theorem eq_of_key_eq (hwf : chart.WellFormed) (hitem : item ∈ chart.arena)
    (hother : other ∈ chart.arena) (hkey : item.key = other.key) (hstop : item.stop = other.stop) :
    item = other := by
  obtain ⟨id, hid⟩ := Array.mem_iff_getElem?.1 hitem
  obtain ⟨id', hid'⟩ := Array.mem_iff_getElem?.1 hother
  obtain ⟨slot, hslot, hlisted⟩ := hwf.item_listed hid
  obtain ⟨slot', hslot', hlisted'⟩ := hwf.item_listed hid'
  rw [hkey, hstop, hslot'] at hslot
  cases hslot
  rw [h, or_iff_left List.not_mem_nil] at hlisted hlisted'
  subst hlisted hlisted'
  rw [hid] at hid'
  exact Option.some.inj hid'

end Plain

end Chart

namespace Recognition

variable {T N H Tok : Type} [DecidableEq N] [Terminal T Tok] {r : Recognition T N H Tok} {s : State N}

/-- Where first derivations are kept, no slot gets alternatives. -/
theorem Reachable.plain (hs : r.Reachable s) (hpolicy : r.policy = .keepFirst) : s.chart.Plain := by
  induction hs with
  | refl => exact fun position slot => Chart.alternativesAt_empty ..
  | tail hs hleads ih =>
    cases (Reachable.invariant hs).transition hleads with
    | insert _ hinserts => exact ih.insert hpolicy hinserts
    | take => exact ih
    | advance => exact ih

theorem plain_of_chart_eq_ok {chart : Chart} (hchart : r.chart = .ok chart)
    (hpolicy : r.policy = .keepFirst) : chart.Plain := by
  obtain ⟨found, last, hfound, hlast, hclosed⟩ := r.exists_reachable_closed
  rw [hchart] at hfound
  cases hfound
  cases hlast.invariant.transition hclosed with
  | close => exact hlast.plain hpolicy

/-- The destinations of the items that a slot of this key yields, where columns have these keys and no
    alternatives, and empty derivations of these heads are known. -/
def destinations (r : Recognition T N H Tok) (position : Nat) (heads : List N)
    (keys : Nat → List ItemKey) (key : ItemKey) : List (Nat × ItemKey) :=
  match r.grammar.rules[key.rule]? with
  | none => []
  | some rule =>
    match rule.symbol? key.dot with
    | some (.nonterminal n) =>
      (r.grammar.rulesFor n).map (fun id => (position, ⟨id, 0, position⟩)) ++
        (heads.filter (· = n)).map fun _ => (position, key.next)
    | some (.terminal t) => if r.admitsAt position t then [(position + 1, key.next)] else []
    | none =>
      ((keys key.origin).filter (·.waitsFor r.grammar rule.head)).map fun parent =>
        (position, parent.next)

/-- The heads of the empty derivations that are known from then on. -/
def headsAfter (g : Grammar T N H) (position : Nat) (heads : List N) (key : ItemKey) : List N :=
  match g.rules[key.rule]? with
  | none => heads
  | some rule =>
    if (rule.symbol? key.dot).isNone ∧ key.origin = position then heads ++ [rule.head] else heads

omit [Terminal T Tok] in
theorem map_destination_stepOver (position : Nat) (nullable : List (N × ItemId)) (head : N)
    (item : Item) :
    (stepOver position nullable head item).map Item.destination =
      ((nullable.map Prod.fst).filter (· = head)).map fun _ => (position, item.key.next) := by
  simp only [stepOver, emptyDerivations, List.map_map, List.filter_map]
  rfl

theorem map_destination_advance (position : Nat) (slot : ItemId) (items : List Item) :
    (items.map (·.advance position slot)).map Item.destination =
      (items.map Item.key).map fun key => (position, key.next) := by
  rw [List.map_map, List.map_map]
  rfl

/-- Without alternatives the key of a slot tells what the slot yields. -/
theorem yield_of_plain {chart : Chart} {position : Nat} {slot : ItemId} {first : Item}
    (hplain : chart.Plain) (hwf : chart.WellFormed) (hslot : slot ∈ chart.slotsAt position)
    (hfirst : chart.arena[slot]? = some first) (hruled : chart.Ruled r.grammar)
    (horigin : first.origin < chart.columns.size) (nullable : List (N × ItemId)) :
    ∃ items nullable', r.yield chart position nullable slot = .ok (items, nullable') ∧
      items.map Item.destination =
        r.destinations position (nullable.map Prod.fst) chart.keysAt first.key ∧
      nullable'.map Prod.fst = headsAfter r.grammar position (nullable.map Prod.fst) first.key := by
  have hitems : chart.itemsOf position slot = [first] := by
    rw [hplain.itemsOf_eq, hfirst, Option.toList_some]
  have hstop := hwf.stop_of_mem_slotsAt hslot hfirst
  obtain ⟨rule, hrule⟩ := hruled first (Array.mem_of_getElem? hfirst)
  have hkeyRule : r.grammar.rules[first.key.rule]? = some rule := hrule
  cases hsymbol : rule.symbol? first.key.dot with
  | some symbol =>
    have hexpects : first.Expects r.grammar symbol := ⟨rule, hrule, hsymbol⟩
    have hheads : headsAfter r.grammar position (nullable.map Prod.fst) first.key =
        nullable.map Prod.fst := by
      simp [headsAfter, hkeyRule, hsymbol]
    cases symbol with
    | terminal t =>
      refine ⟨_, _, r.yield_of_expects_terminal hwf hslot hfirst hexpects, ?_, hheads.symm⟩
      simp only [destinations, hkeyRule, hsymbol, hitems]
      split_ifs <;> simp [Item.destination, hstop]
    | nonterminal n =>
      refine ⟨_, _, r.yield_of_expects_nonterminal hwf hslot hfirst hexpects, ?_, hheads.symm⟩
      simp only [destinations, hkeyRule, hsymbol, hitems, List.flatMap_singleton, List.map_append,
        map_destination_stepOver, List.map_map]
      rfl
  | none =>
    have hfinishes : first.Finishes r.grammar rule.head :=
      ⟨rule, hrule, rfl, List.getElem?_eq_none_iff.1 hsymbol⟩
    refine ⟨_, _, r.yield_of_finishes hwf hfirst hruled horigin hfinishes, ?_, ?_⟩
    · simp only [destinations, hkeyRule, hsymbol, map_destination_advance, hplain.map_key_parents]
      rfl
    · simp only [headsAfter, hkeyRule, hsymbol, Option.isNone_none, true_and]
      rw [apply_ite (List.map Prod.fst), List.map_append]
      rfl

end Recognition

end Earley
