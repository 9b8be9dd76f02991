import Earley.Proofs.Chart.Listing
import Earley.Proofs.Recognition.Packing
import Earley.Proofs.Recognition.Progress

/-!
# Closed columns

Once a column is done, its derivations are closed under all that a recognition can do: the rules of the
next nonterminal have been predicted, and the dot has been moved over the next token and over each
finished slot that ends in a column that is done. Derivations and finished slots come in any order, and
each pair of them is met when the later one comes.

Main statement: `closed_columns_are_exhausted`.
-/

namespace Earley

namespace Chart

variable {chart chart' : Chart} {policy : AmbiguityPolicy} {item : Item}

/-- The item is among the derivations of its column. Where first derivations are kept, its column has a
    slot of its key. -/
def Lists (chart : Chart) : AmbiguityPolicy → Item → Prop
  | .merge, item => ∃ id ∈ chart.idsAt item.stop, chart.arena[id]? = some item
  | .keepFirst, item => chart.HasSlot item.stop item.key

namespace WellFormed

variable (hwf : chart.WellFormed)
include hwf

theorem hasSlot_iff_holds : chart.HasSlot item.stop item.key ↔ chart.Holds item := by
  constructor
  · rintro ⟨slot, hslot, first, hfirst, hkey⟩
    exact ⟨first, Array.mem_of_getElem? hfirst, hkey, hwf.stop_of_mem_slotsAt hslot hfirst⟩
  · rintro ⟨other, hother, hkey, hstop⟩
    obtain ⟨slot, first, _, hslot, hfirst, hfirstKey, _⟩ := hwf.exists_slot hother
    exact ⟨slot, hstop ▸ hslot, first, hfirst, hfirstKey.trans hkey⟩

/-- What the arena records the columns list. -/
theorem lists_iff_records : chart.Lists policy item ↔ chart.Records policy item := by
  cases policy with
  | merge =>
    constructor
    · rintro ⟨id, _, hid⟩
      exact Array.mem_of_getElem? hid
    · intro hmem
      obtain ⟨id, hid⟩ := Array.mem_iff_getElem?.1 hmem
      exact ⟨id, hwf.mem_idsAt_iff.2 ⟨item, hid, rfl⟩, hid⟩
  | keepFirst => exact hwf.hasSlot_iff_holds

end WellFormed

/-- An insertion changes the column of the item only. -/
theorem Inserts.columns_eq {insertion : Insertion} {position : Nat}
    (h : chart.Inserts item policy insertion chart') (hstop : item.stop ≠ position) :
    chart'.columns[position]? = chart.columns[position]? := by
  cases h with
  | added => rw [openSlot, Array.getElem?_modify, if_neg hstop]
  | duplicate => rfl
  | merged => rw [addAlternative, Array.getElem?_modify, if_neg hstop]
  | dropped => rfl

end Chart

namespace Recognition

variable {T N H Tok : Type} [DecidableEq N] [Terminal T Tok] {r : Recognition T N H Tok}
  {s s' : State N} {position : Nat}

/-- Nothing more can be done with the derivations of a column, as far as columns are done. -/
structure Exhausted (r : Recognition T N H Tok) (s : State N) (position : Nat) : Prop where
  predicted : ∀ {id : ItemId} {item : Item} {n : N} {rule : RuleId}, id ∈ s.chart.idsAt position →
    s.chart.arena[id]? = some item → item.Expects r.grammar (.nonterminal n) →
    rule ∈ r.grammar.rulesFor n → s.chart.HasSlot position ⟨rule, 0, position⟩
  completed : ∀ {id : ItemId} {item : Item} {n : N} {stop : Nat} {child : ItemId},
    id ∈ s.chart.idsAt position → s.chart.arena[id]? = some item →
    item.Expects r.grammar (.nonterminal n) → s.Done stop →
    s.chart.FinishedSlot r.grammar n position stop child →
    s.chart.Lists r.policy (item.advance stop child)
  scanned : ∀ {id : ItemId} {item : Item} {t : T}, id ∈ s.chart.idsAt position →
    s.chart.arena[id]? = some item → item.Expects r.grammar (.terminal t) →
    AdmitsAt r.tokens position t → s.chart.Lists r.policy item.scan

/-- At the end of a column the items up to there are settled. -/
theorem Invariant.settled_of_atEnd (h : r.Invariant s) (hend : s.AtEnd) {item : Item}
    (hitem : item ∈ s.chart.arena) (hstop : item.stop ≤ s.position) : s.Settled item := by
  obtain ⟨slot, _, hslot, hmem, _⟩ := h.sound.wellFormed.exists_slot hitem
  exact ⟨slot, hslot, State.hasTaken_of_le hend.length_le hmem hstop⟩

/-- At the end of a column the derivations of the columns up to there have been moved over its finished
    slots. -/
theorem Invariant.records_advance_of_atEnd (h : r.Invariant s) (hend : s.AtEnd) {item : Item}
    (hitem : item ∈ s.chart.arena) {n : N} (hexpects : item.Expects r.grammar (.nonterminal n))
    {child : ItemId} (hchild : s.chart.FinishedSlot r.grammar n item.stop s.position child) :
    s.chart.Records r.policy (item.advance s.position child) := by
  have hsettled := h.settled_of_atEnd hend hitem (h.sound.le_of_finishedSlot hchild)
  have htaken := State.hasTaken_of_le hend.length_le hchild.1 (Nat.le_refl _)
  exact (h.closed.complete hitem hsettled hexpects hchild htaken).records hend.agenda_eq

/-- The moment at the end of a column that is done shows its derivations. -/
theorem Reachable.exists_moment (hs : r.Reachable s) (hdone : s.Done position) :
    ∃ before, r.Reachable before ∧ before.position = position ∧ before.AtEnd ∧
      s.chart.Extends before.chart ∧ s.chart.SharesColumns before.chart (position + 1) := by
  obtain ⟨before, hbefore, hpath, rfl, hend⟩ := hs.exists_atEnd hdone
  exact ⟨before, hbefore, rfl, hend, hbefore.chart_extends hpath,
    (hbefore.sharesColumns hpath (.inr ⟨rfl, hend⟩)).2⟩

/-- The columns that are done are exhausted. -/
theorem Reachable.exhausted (hs : r.Reachable s) (hdone : s.Done position) :
    r.Exhausted s position := by
  have hwf := hs.invariant.sound.wellFormed
  have hstop {id : ItemId} {item : Item} (hid : id ∈ s.chart.idsAt position)
      (hitem : s.chart.arena[id]? = some item) : item.stop = position := by
    obtain ⟨found, hfound, hstop⟩ := hwf.mem_idsAt_iff.1 hid
    rw [hfound] at hitem
    cases hitem
    exact hstop
  obtain ⟨before, hbefore, hposition, hend, hextends, hshares⟩ := hs.exists_moment hdone
  have hclosed := hbefore.invariant.closed
  constructor
  · intro id item n rule hid hitem hexpects hrule
    obtain rfl := hstop hid hitem
    have hold := Array.mem_of_getElem? ((hshares.items (Nat.lt_succ_self _)).1 hitem)
    have hsettled := hbefore.invariant.settled_of_atEnd hend hold (Nat.le_of_eq hposition.symm)
    have hrecords := (hclosed.predict hold hsettled hexpects hrule).records hend.agenda_eq
    exact hwf.hasSlot_iff_holds.2 (hrecords.mono hextends).holds
  · -- The moment at the end of the column of the finished slot shows both of them.
    intro id item n stop child hid hitem hexpects hstopDone hchild
    obtain rfl := hstop hid hitem
    obtain ⟨later, hlater, rfl, hlaterEnd, hlaterExtends, hlaterShares⟩ :=
      hs.exists_moment hstopDone
    have hle := hs.invariant.sound.le_of_finishedSlot hchild
    have hold := Array.mem_of_getElem? ((hlaterShares.items (Nat.lt_succ_of_le hle)).1 hitem)
    have hchild := hchild.of_extends hlater.invariant.sound.wellFormed hlaterExtends
      (hlaterShares.slots _ (Nat.lt_succ_self _) ▸ hchild.1)
    have hrecords := hlater.invariant.records_advance_of_atEnd hlaterEnd hold hexpects hchild
    exact hwf.lists_iff_records.2 (hrecords.mono hlaterExtends)
  · intro id item t hid hitem hexpects hadmits
    obtain rfl := hstop hid hitem
    have hold := Array.mem_of_getElem? ((hshares.items (Nat.lt_succ_self _)).1 hitem)
    have hsettled := hbefore.invariant.settled_of_atEnd hend hold (Nat.le_of_eq hposition.symm)
    have hrecords := (hclosed.scan hold hsettled hexpects hadmits).records hend.agenda_eq
    exact hwf.lists_iff_records.2 (hrecords.mono hextends)

/-- A step changes only the column at the current position and the next. -/
theorem Leads.columns_eq (hs : r.Reachable s) (hleads : r.Leads s s')
    (hposition : position < s.position ∨ s.position + 1 < position) :
    s'.chart.columns[position]? = s.chart.columns[position]? := by
  cases hs.invariant.transition hleads with
  | insert hagenda hinserts =>
    refine hinserts.columns_eq fun hstop => ?_
    rcases hs.invariant.sound.agenda_stop (hagenda ▸ List.mem_cons_self) with h | ⟨h, _⟩ <;> omega
  | take => rfl
  | advance => rfl

/-- A stretch of a recognition changes only the columns from its first position up to the one behind
    its last. -/
theorem Reachable.columns_eq (hs : r.Reachable s) (hpath : Relation.ReflTransGen r.Leads s s')
    (hposition : position < s.position ∨ s'.position + 1 < position) :
    s'.chart.columns[position]? = s.chart.columns[position]? := by
  induction hpath with
  | refl => rfl
  | tail hpath hleads ih =>
    have hfirst := hs.position_le hpath
    have hlast := hleads.position_le (hs.trans hpath)
    exact (hleads.columns_eq (hs.trans hpath) (by omega)).trans (ih (by omega))

/-- A column that is done stays as it is. -/
theorem Reachable.columns_eq_of_done (hs : r.Reachable s)
    (hpath : Relation.ReflTransGen r.Leads s s') (hdone : s.Done position) :
    s'.chart.columns[position]? = s.chart.columns[position]? := by
  rcases hdone with hbefore | ⟨rfl, hend⟩
  · exact hs.columns_eq hpath (.inl hbefore)
  · -- From the end of its column a recognition goes on to the next position, with the same chart.
    obtain rfl | ⟨next, hleads, hrest⟩ := hpath.cases_head
    · rfl
    · obtain ⟨_, hnext⟩ := hleads.next_of_end hs.invariant.sound hend.agenda_eq hend.length_le
      have hsame := Reachable.columns_eq (hs.tail hleads) hrest
        (.inl (by rw [hnext]; exact Nat.lt_succ_self s.position))
      rw [hsame, hnext]

/-- Every column comes to its end. From then on its derivations are closed under all that a recognition
    can do, as far as columns are done, and it stays as it is. Until then a column that is being closed
    changes with the next one only. -/
theorem closed_columns_are_exhausted (r : Recognition T N H Tok) (position : Nat) :
    (position ≤ r.tokens.size → ∃ s, r.Reachable s ∧ s.position = position ∧ s.AtEnd) ∧
    (∀ s, r.Reachable s → s.Done position → r.Exhausted s position ∧
      ∀ s', Relation.ReflTransGen r.Leads s s' → s'.Done position ∧
        s'.chart.columns[position]? = s.chart.columns[position]? ∧ s'.chart.Extends s.chart) ∧
    ∀ s s', r.Reachable s → Relation.ReflTransGen r.Leads s s' → s.position = position →
      s'.position = position → ∀ other, other ≠ position → other ≠ position + 1 →
        s'.chart.columns[other]? = s.chart.columns[other]? := by
  refine ⟨fun hposition => ?_, fun s hs hdone => ⟨hs.exhausted hdone, fun s' hpath => ?_⟩, ?_⟩
  · obtain ⟨chart, hchart, _⟩ := r.chart_eq_ok
    obtain ⟨s, hs, hsame, hend, _⟩ := exists_atEnd hchart hposition
    exact ⟨s, hs, hsame, hend⟩
  · exact ⟨(hs.sharesColumns hpath hdone).1, hs.columns_eq_of_done hpath hdone,
      hs.chart_extends hpath⟩
  · rintro s s' hs hpath rfl hlast other hother hnext
    exact hs.columns_eq hpath (by omega)

end Recognition

end Earley
