import Earley.Proofs.Chart.Columns
import Earley.Proofs.Recognition.Filled

/-!
# Columns that are done

A recognition goes through the columns from left to right, and what a step adds ends at the current
position or at the next. A column that is done therefore stays what it is, and the final chart shows each
column as it was when it was done.
-/

namespace Earley.Recognition

variable {T N H Tok : Type} [DecidableEq N] [Terminal T Tok] {r : Recognition T N H Tok}
  {s s' : State N} {chart : Chart} {position : Nat}

theorem Reachable.trans (hs : r.Reachable s) (hpath : Relation.ReflTransGen r.Leads s s') :
    r.Reachable s' :=
  Relation.ReflTransGen.trans hs hpath

/-- Positions do not go back. -/
theorem Leads.position_le (hs : r.Reachable s) (hleads : r.Leads s s') : s.position ≤ s'.position := by
  cases hs.invariant.transition hleads with
  | insert => exact Nat.le_refl _
  | take => exact Nat.le_refl _
  | advance => exact Nat.le_succ _

theorem Reachable.position_le (hs : r.Reachable s) (hpath : Relation.ReflTransGen r.Leads s s') :
    s.position ≤ s'.position := by
  induction hpath with
  | refl => exact Nat.le_refl _
  | tail hpath hleads ih => exact Nat.le_trans ih (hleads.position_le (hs.trans hpath))

/-- Nothing is lost on the way. -/
theorem Leads.chart_extends (hs : r.Reachable s) (hleads : r.Leads s s') :
    s'.chart.Extends s.chart := by
  cases hs.invariant.transition hleads with
  | insert hagenda hinserts =>
    exact hinserts.chart_extends
      (hs.invariant.sound.agenda_stop_lt (hagenda ▸ List.mem_cons_self))
  | take => exact .refl _
  | advance => exact .refl _

theorem Reachable.chart_extends (hs : r.Reachable s) (hpath : Relation.ReflTransGen r.Leads s s') :
    s'.chart.Extends s.chart := by
  induction hpath with
  | refl => exact .refl _
  | tail hpath hleads ih => exact (hleads.chart_extends (hs.trans hpath)).trans ih

/-- All slots of the current column have been taken up and nothing is left to insert. -/
structure State.AtEnd (s : State N) : Prop where
  agenda_eq : s.agenda = []
  length_le : (s.chart.slotsAt s.position).length ≤ s.cursor

/-- Nothing is left to do for the column at a position: the recognition is at its end, or has gone on. -/
def State.Done (s : State N) (position : Nat) : Prop :=
  position < s.position ∨ position = s.position ∧ s.AtEnd

/-- A step leaves the columns that are done as they are. -/
theorem Leads.sharesColumns (hs : r.Reachable s) (hleads : r.Leads s s') (hdone : s.Done position) :
    s'.Done position ∧ s'.chart.SharesColumns s.chart (position + 1) := by
  have hsound := hs.invariant.sound
  cases hs.invariant.transition hleads with
  | @insert item _ _ _ _ hagenda hinserts =>
    have hitem : item ∈ s.agenda := hagenda ▸ List.mem_cons_self
    have hbefore : position < s.position := by
      refine hdone.resolve_right fun ⟨_, hend⟩ => ?_
      rw [hend.agenda_eq] at hitem
      cases hitem
    refine ⟨.inl hbefore, hinserts.sharesColumns (hsound.agenda_stop_lt hitem) ?_⟩
    rcases hsound.agenda_stop hitem with hstop | ⟨hstop, _⟩ <;> omega
  | take _ hslot =>
    refine ⟨.inl (hdone.resolve_right fun ⟨_, hend⟩ => ?_), .refl ..⟩
    exact Nat.not_lt.2 hend.length_le (List.getElem?_eq_some_iff.1 hslot).1
  | advance =>
    refine ⟨.inl (Nat.lt_succ_of_le ?_), .refl ..⟩
    exact hdone.elim Nat.le_of_lt fun hend => Nat.le_of_eq hend.1

theorem Reachable.sharesColumns (hs : r.Reachable s) (hpath : Relation.ReflTransGen r.Leads s s')
    (hdone : s.Done position) :
    s'.Done position ∧ s'.chart.SharesColumns s.chart (position + 1) := by
  induction hpath with
  | refl => exact ⟨hdone, .refl ..⟩
  | tail hpath hleads ih =>
    obtain ⟨hnext, hshares⟩ := ih
    obtain ⟨hlast, hshares'⟩ := hleads.sharesColumns (hs.trans hpath) hnext
    exact ⟨hlast, hshares'.trans hshares⟩

/-- The final chart shows the columns that are done. -/
theorem Reachable.chart_sharesColumns (hs : r.Reachable s) (hdone : s.Done position)
    (hchart : r.chart = .ok chart) : chart.SharesColumns s.chart (position + 1) := by
  obtain ⟨found, last, _, hpath, hclosed⟩ := hs.invariant.finish_eq_ok
  have hfound := (hs.trans hpath).chart_eq hclosed
  rw [hchart] at hfound
  cases hfound
  obtain ⟨_, hshares⟩ := hs.sharesColumns hpath hdone
  cases (hs.trans hpath).invariant.transition hclosed with
  | close => exact hshares

/-- For each column that is done there was a moment at its end. -/
theorem Reachable.exists_atEnd (hs : r.Reachable s) (hdone : s.Done position) :
    ∃ before, r.Reachable before ∧ Relation.ReflTransGen r.Leads before s ∧
      before.position = position ∧ before.AtEnd := by
  induction hs with
  | refl =>
    obtain ⟨rfl, hend⟩ := hdone.resolve_left (Nat.not_lt_zero _)
    exact ⟨_, .refl, .refl, rfl, hend⟩
  | @tail s s' hs hleads ih =>
    rcases hdone with hbefore | ⟨rfl, hend⟩
    · have hdone : s.Done position := by
        cases (Reachable.invariant hs).transition hleads with
        | insert => exact .inl hbefore
        | take => exact .inl hbefore
        | advance hagenda hcursor =>
          rcases Nat.lt_succ_iff_lt_or_eq.1 hbefore with hlt | heq
          · exact .inl hlt
          · exact .inr ⟨heq, hagenda, hcursor⟩
      obtain ⟨before, hreachable, hpath, hatEnd⟩ := ih hdone
      exact ⟨before, hreachable, .tail hpath hleads, hatEnd⟩
    · exact ⟨s', .tail hs hleads, .refl, rfl, hend⟩

/-- Every column comes to its end, and is in the final chart what it is then. -/
theorem exists_atEnd (hchart : r.chart = .ok chart) (hposition : position ≤ r.tokens.size) :
    ∃ s, r.Reachable s ∧ s.position = position ∧ s.AtEnd ∧
      chart.SharesColumns s.chart (position + 1) := by
  obtain ⟨_, last, _, hlast, hclosed⟩ := r.exists_reachable_closed
  have hdone : last.Done position := by
    cases hlast.invariant.transition hclosed with
    | close hagenda hcursor hend =>
      rcases Nat.lt_or_eq_of_le (Nat.le_trans hposition hend) with hlt | heq
      · exact .inl hlt
      · exact .inr ⟨heq, hagenda, hcursor⟩
  obtain ⟨s, hs, _, hsame, hend⟩ := hlast.exists_atEnd hdone
  exact ⟨s, hs, hsame, hend, hs.chart_sharesColumns (.inr ⟨hsame.symm, hend⟩) hchart⟩

end Earley.Recognition
