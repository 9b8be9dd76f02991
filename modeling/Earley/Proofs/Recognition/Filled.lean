import Mathlib.Logic.Relation
import Earley.Proofs.Recognition.Closure
import Earley.Proofs.Recognition.Lineage
import Earley.Recognition.Run

/-!
# Filled charts

A recognition never fails, and the chart it ends with is closed: predictions, tokens and finished slots
give nothing that the chart does not record.
-/

namespace Earley.Recognition

variable {T N H Tok : Type} [DecidableEq N] [Terminal T Tok] {r : Recognition T N H Tok}
  {s s' : State N} {chart : Chart}

/-- What holds of every state of a recognition. -/
structure Invariant (r : Recognition T N H Tok) (s : State N) : Prop where
  sound : r.Sound s
  tracked : r.Tracked s
  closed : r.Closed s
  rooted : r.Rooted s

theorem invariant_initial (r : Recognition T N H Tok) : r.Invariant r.initial :=
  ⟨sound_initial r, tracked_initial r, closed_initial r, rooted_initial r⟩

theorem Invariant.transition (h : r.Invariant s) {outcome : Outcome N}
    (hstep : r.step s = .ok outcome) : r.Transition s outcome := by
  obtain ⟨found, hfound, htransition⟩ := step_eq_ok h.sound h.tracked
  rw [hstep] at hfound
  cases hfound
  exact htransition

/-- Every step keeps the invariant. -/
theorem Invariant.leads (h : r.Invariant s) (hleads : r.Leads s s') : r.Invariant s' := by
  have htransition := h.transition hleads
  exact ⟨h.sound.transition h.tracked htransition, h.tracked.transition h.sound htransition,
    h.closed.transition h.sound h.tracked htransition,
    h.rooted.transition h.sound h.tracked htransition⟩

/-- The state is reached in a recognition. -/
def Reachable (r : Recognition T N H Tok) (s : State N) : Prop :=
  Relation.ReflTransGen r.Leads r.initial s

/-- The state after so many steps, or the last one where a recognition ends before. -/
def after (r : Recognition T N H Tok) : Nat → State N
  | 0 => r.initial
  | steps + 1 =>
    match r.step (r.after steps) with
    | .ok (.running s) => s
    | _ => r.after steps

theorem reachable_after (r : Recognition T N H Tok) (steps : Nat) : r.Reachable (r.after steps) := by
  induction steps with
  | zero => exact .refl
  | succ steps ih =>
    unfold after
    split
    · rename_i s hstep
      exact .tail ih hstep
    · exact ih

theorem Reachable.exists_after (h : r.Reachable s) : ∃ steps, r.after steps = s := by
  induction h with
  | refl => exact ⟨0, rfl⟩
  | tail _ hleads ih =>
    obtain ⟨steps, rfl⟩ := ih
    refine ⟨steps + 1, ?_⟩
    unfold Leads at hleads
    rw [after, hleads]

/-- Every state that is reached has the invariant. -/
theorem Reachable.invariant (h : r.Reachable s) : r.Invariant s := by
  induction h with
  | refl => exact invariant_initial r
  | tail _ hleads ih => exact ih.leads hleads

theorem finish_of_closed (hclosed : r.step s = .ok (.closed chart)) : r.finish s = .ok chart := by
  unfold finish
  split <;> simp_all

theorem finish_of_leads (hleads : r.Leads s s') : r.finish s = r.finish s' := by
  conv_lhs => unfold finish
  unfold Leads at hleads
  split <;> simp_all

/-- A run from a state with the invariant ends, at a state reached from there whose last column is
    closed. -/
theorem Invariant.finish_eq_ok (h : r.Invariant s) :
    ∃ chart last, r.finish s = .ok chart ∧ Relation.ReflTransGen r.Leads s last ∧
      r.step last = .ok (.closed chart) := by
  induction s using finish.induct r with
  | case1 s fault hstep =>
    obtain ⟨outcome, hok, _⟩ := step_eq_ok h.sound h.tracked
    rw [hstep] at hok
    cases hok
  | case2 s chart hstep => exact ⟨chart, s, finish_of_closed hstep, .refl, hstep⟩
  | case3 s next hstep ih =>
    obtain ⟨chart, last, hfinish, hpath, hlast⟩ := ih (h.leads hstep)
    exact ⟨chart, last, (finish_of_leads hstep).trans hfinish, .head hstep hpath, hlast⟩

/-- A recognition ends at a state whose last column is closed. -/
theorem exists_reachable_closed (r : Recognition T N H Tok) :
    ∃ chart last, r.chart = .ok chart ∧ r.Reachable last ∧ r.step last = .ok (.closed chart) :=
  (invariant_initial r).finish_eq_ok

/-- The chart of the state at which a recognition ends is its result. -/
theorem Reachable.chart_eq (h : r.Reachable s) (hclosed : r.step s = .ok (.closed chart)) :
    r.chart = .ok chart := by
  rw [← finish_of_closed hclosed, Recognition.chart]
  clear hclosed
  induction h with
  | refl => rfl
  | tail _ hleads ih => rw [ih, finish_of_leads hleads]

/-- A chart in which all that can be recognized is recorded. -/
structure Filled (r : Recognition T N H Tok) (chart : Chart) : Prop where
  wellFormed : chart.WellFormed
  size_columns : chart.columns.size = r.tokens.size + 1
  justified : ∀ {item : Item}, item ∈ chart.arena → ∃ rule, r.Justified chart rule item
  backpointers_lt : ∀ {id : ItemId} {item : Item}, chart.arena[id]? = some item →
    ∀ c ∈ item.backpointers, c < id
  stems : ∀ {id : ItemId} {item : Item}, chart.arena[id]? = some item → r.Stems chart id item
  start : ∀ {id : RuleId}, id ∈ r.grammar.startRules → chart.Records r.policy (.predicted id 0)
  predict : ∀ {item : Item} {n : N} {id : RuleId}, item ∈ chart.arena →
    item.Expects r.grammar (.nonterminal n) → id ∈ r.grammar.rulesFor n →
    chart.Records r.policy (.predicted id item.stop)
  scan : ∀ {item : Item} {t : T}, item ∈ chart.arena → item.Expects r.grammar (.terminal t) →
    AdmitsAt r.tokens item.stop t → chart.Records r.policy item.scan
  complete : ∀ {item : Item} {n : N} {position : Nat} {slot : ItemId}, item ∈ chart.arena →
    item.Expects r.grammar (.nonterminal n) →
    chart.FinishedSlot r.grammar n item.stop position slot →
    chart.Records r.policy (item.advance position slot)

/-- At the end every slot has been taken up and nothing is left on the agenda. -/
theorem Invariant.filled (h : r.Invariant s) (hstep : r.step s = .ok (.closed chart)) :
    r.Filled chart := by
  cases h.transition hstep with
  | close hagenda hcursor hposition =>
    have hlast : s.position = r.tokens.size := Nat.le_antisymm h.sound.position_le hposition
    have htaken : ∀ {position : Nat} {slot : ItemId}, slot ∈ s.chart.slotsAt position →
        s.HasTaken position slot := by
      intro position slot hslot
      have hlt := Chart.lt_of_mem_slotsAt hslot
      rw [h.sound.size_columns, ← hlast] at hlt
      exact State.hasTaken_of_le hcursor hslot (Nat.le_of_lt_succ hlt)
    have hsettled : ∀ {item : Item}, item ∈ s.chart.arena → s.Settled item := by
      intro item hitem
      obtain ⟨slot, _, hslot, hmem, _⟩ := h.sound.wellFormed.exists_slot hitem
      exact ⟨slot, hslot, htaken hmem⟩
    exact {
      wellFormed := h.sound.wellFormed
      size_columns := h.sound.size_columns
      justified := h.sound.arena_justified
      backpointers_lt := h.sound.backpointers_lt
      stems := h.rooted.arena
      start := fun hid => (h.closed.start hid).records hagenda
      predict := fun hitem hexpects hid =>
        (h.closed.predict hitem (hsettled hitem) hexpects hid).records hagenda
      scan := fun hitem hexpects hadmits =>
        (h.closed.scan hitem (hsettled hitem) hexpects hadmits).records hagenda
      complete := fun hitem hexpects hslot =>
        (h.closed.complete hitem (hsettled hitem) hexpects hslot (htaken hslot.1)).records hagenda }

/-- Every recognition ends with a filled chart. -/
theorem chart_eq_ok (r : Recognition T N H Tok) : ∃ chart, r.chart = .ok chart ∧ r.Filled chart := by
  obtain ⟨chart, last, hchart, hreachable, hstep⟩ := exists_reachable_closed r
  exact ⟨chart, hchart, hreachable.invariant.filled hstep⟩

end Earley.Recognition
