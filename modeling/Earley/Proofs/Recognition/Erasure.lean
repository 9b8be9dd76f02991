import Earley.Proofs.Recognition.Agenda
import Earley.Proofs.Recognition.Anticipation

/-!
# Keeping the first derivation erases alternatives

A recognition and the one that keeps first derivations only are run side by side. They agree in all
slots, because items that come from alternatives open none: each shares its key with an item in front of
it, and what a late alternative is followed to has a slot already.
-/

namespace Earley.Recognition

variable {T N H Tok : Type} [DecidableEq N]

/-- The recognition of the same input that keeps the first derivation of each key. -/
def keepingFirst (r : Recognition T N H Tok) : Recognition T N H Tok :=
  { r with policy := .keepFirst }

/-- The two states differ in nothing but alternatives and what they bring about. -/
structure State.ErasesTo (s s' : State N) : Prop where
  chart : s.chart.ErasesTo s'.chart
  position_eq : s'.position = s.position
  cursor_eq : s'.cursor = s.cursor
  nullable : s.chart.SameNullable s'.chart s.nullable s'.nullable
  agenda : s.chart.Covers s'.chart [] s.agenda s'.agenda

variable [Terminal T Tok] {r : Recognition T N H Tok} {s s' next : State N}

/-- Slots of the same place yield the same, but for what the alternatives add. -/
theorem exists_yields (hs : r.Sound s) (hs' : r.keepingFirst.Sound s') (h : s.ErasesTo s')
    {slot slot' : ItemId} (hslot : slot ∈ s.chart.slotsAt s.position)
    (hslot' : slot' ∈ s'.chart.slotsAt s.position)
    (hsame : s.chart.SamePlace s'.chart slot slot') :
    ∃ items items' nullable nullable',
      r.yield s.chart s.position s.nullable slot = .ok (items, nullable) ∧
      r.keepingFirst.yield s'.chart s.position s'.nullable slot' = .ok (items', nullable') ∧
      s.chart.Covers s'.chart [] items items' ∧ s.chart.SameNullable s'.chart nullable nullable' := by
  have hwf := hs.wellFormed
  have hwf' := hs'.wellFormed
  have hnames := h.chart.namesAlike hsame
  obtain ⟨first, first', hfirst, hfirst', halike⟩ := h.chart.namesAlike hsame
  obtain ⟨rule, hrule⟩ := hs.ruled first (Array.mem_of_getElem? hfirst)
  rcases Item.expects_or_finishes hrule with ⟨t | n, hexpects⟩ | hfinishes
  · have hexpects' := hexpects.of_key_eq halike.key_eq.symm
    refine ⟨_, _, _, _, r.yield_of_expects_terminal hwf hslot hfirst hexpects,
      r.keepingFirst.yield_of_expects_terminal hwf' hslot' hfirst' hexpects', ?_, h.nullable⟩
    have hadmits : r.keepingFirst.admitsAt s.position t = r.admitsAt s.position t := rfl
    rw [hadmits]
    split_ifs
    · exact h.chart.covers_scan hwf hslot hnames
    · exact .nil
  · have hexpects' := hexpects.of_key_eq halike.key_eq.symm
    refine ⟨_, _, _, _, r.yield_of_expects_nonterminal hwf hslot hfirst hexpects,
      r.keepingFirst.yield_of_expects_nonterminal hwf' hslot' hfirst' hexpects', ?_, h.nullable⟩
    exact (Chart.Covers.of_predicted _ s.position).append
      (h.chart.covers_stepOver hwf h.nullable hslot hnames n)
  · have hfinishes' := hfinishes.of_key_eq halike.key_eq.symm
    refine ⟨_, _, _, _, r.yield_of_finishes hwf hfirst hs.ruled
        (hs.origin_lt (Array.mem_of_getElem? hfirst)) hfinishes,
      r.keepingFirst.yield_of_finishes hwf' hfirst' hs'.ruled
        (hs'.origin_lt (Array.mem_of_getElem? hfirst')) hfinishes', ?_, ?_⟩
    · rw [halike.origin_eq]
      exact h.chart.covers_advance hwf hsame r.grammar first'.origin s.position rule.head
    · rw [halike.origin_eq]
      split_ifs
      · exact List.rel_append h.nullable (.cons ⟨rfl, hsame⟩ .nil)
      · exact h.nullable

omit [Terminal T Tok] in
theorem erasesTo_initial (r : Recognition T N H Tok) :
    r.initial.ErasesTo r.keepingFirst.initial where
  chart := by
    constructor <;> simp [initial, keepingFirst]
  position_eq := rfl
  cursor_eq := rfl
  nullable := .nil
  agenda := .of_predicted r.grammar.startRules 0

namespace State.ErasesTo

variable (h : s.ErasesTo s')
include h

omit [DecidableEq N] [Terminal T Tok] in
theorem agenda_eq_nil (hagenda : s.agenda = []) : s'.agenda = [] := by
  have hcovers := h.agenda
  rw [hagenda] at hcovers
  generalize s'.agenda = agenda' at hcovers
  cases hcovers
  rfl

omit [DecidableEq N] [Terminal T Tok] in
theorem length_slotsAt_eq :
    (s'.chart.slotsAt s'.position).length = (s.chart.slotsAt s.position).length := by
  rw [h.position_eq]
  exact (h.chart.slots s.position).length_eq.symm

theorem step_of_end (hs' : r.keepingFirst.Reachable s') (hagenda : s.agenda = [])
    (hcursor : (s.chart.slotsAt s.position).length ≤ s.cursor) :
    r.keepingFirst.step s' = .ok (if s.position < r.tokens.size
      then .running ⟨s'.chart, s.position + 1, 0, none, [], []⟩ else .closed s'.chart) := by
  rw [← h.position_eq]
  exact Recognition.step_of_end hs'.invariant.sound (h.agenda_eq_nil hagenda)
    (h.length_slotsAt_eq ▸ h.cursor_eq ▸ hcursor)

variable (hs : r.Reachable s) (hs' : r.keepingFirst.Reachable s')
include hs hs'

/-- An item of both agendas enters both charts. One that comes from an alternative only is passed over
    by the recognition that keeps first derivations. -/
theorem insert {item : Item} {agenda : List Item} (hagenda : s.agenda = item :: agenda)
    (hleads : r.Leads s next) : ∃ next', r.keepingFirst.Reachable next' ∧ next.ErasesTo next' := by
  have hi := hs.invariant
  have hi' := hs'.invariant
  obtain ⟨insertion, chart, items, hstep, hinserts, hitems⟩ :=
    step_of_agenda hi.sound hi.tracked hagenda
  obtain rfl := hleads.next_eq hstep
  have hstop := hi.sound.agenda_stop_lt (hagenda ▸ List.mem_cons_self)
  have hextends := hinserts.chart_extends hstop
  have hheld : ∀ other ∈ items, chart.HoldsWith ([] ++ []) other := fun other hother =>
    .inl ((hs.anticipates.holds_of_mem_items hi.sound hagenda hinserts hitems hother).mono hextends)
  have hcovers := h.agenda
  rw [hagenda] at hcovers
  generalize hagenda' : s'.agenda = agenda' at hcovers
  cases hcovers with
  | @both _ _ agenda' _ item' halike hrest =>
    have hstop' := hi'.sound.agenda_stop_lt (hagenda' ▸ List.mem_cons_self)
    obtain ⟨insertion', chart', _, hinserts'⟩ :=
      hi'.sound.wellFormed.add_inserts hstop' r.keepingFirst.policy
    have hstep' := step_of_inserts hi'.sound hi'.tracked hagenda' hinserts'
    rw [lateItems_of_inserts hinserts' rfl, List.nil_append] at hstep'
    have hextends' := hinserts'.chart_extends hstop'
    refine ⟨_, .tail hs' hstep', ?_⟩
    exact {
      chart := h.chart.insert hi.sound.wellFormed hi'.sound.wellFormed halike hstop hstop' hinserts
        hinserts'
      position_eq := h.position_eq
      cursor_eq := h.cursor_eq
      nullable := h.nullable.mono hextends hextends'
      agenda := by
        refine (Chart.Covers.of_forall₂ .nil hheld).append (hrest.mono hextends hextends' ?_)
        intro other hother
        obtain rfl := List.mem_singleton.1 hother
        exact .inl (hinserts.records hi.sound.wellFormed).holds }
  | extra hholds hrest =>
    have hholds : s.chart.Holds item := hholds.resolve_right (by simp)
    refine ⟨s', hs', ?_⟩
    exact {
      chart := h.chart.insert_of_holds hi.sound.wellFormed hholds hinserts
      position_eq := h.position_eq
      cursor_eq := h.cursor_eq
      nullable := h.nullable.mono hextends (.refl _)
      agenda := by
        rw [hagenda']
        refine (Chart.Covers.of_forall₂ .nil hheld).append (hrest.mono hextends (.refl _) ?_)
        intro other hother
        cases hother }

/-- Both recognitions take up the slots of the same place. -/
theorem take (hagenda : s.agenda = []) {slot : ItemId}
    (hslot : (s.chart.slotsAt s.position)[s.cursor]? = some slot) (hleads : r.Leads s next) :
    ∃ next', r.keepingFirst.Reachable next' ∧ next.ErasesTo next' := by
  have hi := hs.invariant
  have hi' := hs'.invariant
  obtain ⟨slot', hslot', hsame⟩ := h.chart.exists_samePlace hslot
  obtain ⟨items, items', nullable, nullable', hyield, hyield', hcovers, hnullable⟩ :=
    exists_yields hi.sound hi'.sound h (List.mem_of_getElem? hslot) (List.mem_of_getElem? hslot')
      hsame
  obtain rfl := hleads.next_eq (step_of_slot hi.sound hagenda hslot hyield)
  rw [← h.position_eq] at hyield'
  rw [← h.position_eq, ← h.cursor_eq] at hslot'
  have hstep' := step_of_slot hi'.sound (h.agenda_eq_nil hagenda) hslot' hyield'
  refine ⟨_, .tail hs' hstep', ?_⟩
  exact ⟨h.chart, h.position_eq, congrArg Nat.succ h.cursor_eq, hnullable, hcovers⟩

/-- Both recognitions go on to the next column. -/
theorem advance (hagenda : s.agenda = []) (hcursor : (s.chart.slotsAt s.position).length ≤ s.cursor)
    (hleads : r.Leads s next) : ∃ next', r.keepingFirst.Reachable next' ∧ next.ErasesTo next' := by
  obtain ⟨hposition, rfl⟩ := hleads.next_of_end hs.invariant.sound hagenda hcursor
  have hstep' := h.step_of_end hs' hagenda hcursor
  rw [if_pos hposition] at hstep'
  exact ⟨_, .tail hs' hstep', ⟨h.chart, rfl, rfl, .nil, .nil⟩⟩

/-- A step of the one recognition is answered by a step of the other one, or by none. -/
theorem leads (hleads : r.Leads s next) :
    ∃ next', r.keepingFirst.Reachable next' ∧ next.ErasesTo next' := by
  cases hagenda : s.agenda with
  | cons => exact h.insert hs hs' hagenda hleads
  | nil =>
    cases hslot : (s.chart.slotsAt s.position)[s.cursor]? with
    | some => exact h.take hs hs' hagenda hslot hleads
    | none => exact h.advance hs hs' hagenda (List.getElem?_eq_none_iff.1 hslot) hleads

/-- Both recognitions end together. -/
theorem close {chart : Chart} (hclosed : r.step s = .ok (.closed chart)) :
    ∃ chart', r.keepingFirst.step s' = .ok (.closed chart') ∧ chart.ErasesTo chart' := by
  cases hs.invariant.transition hclosed with
  | close hagenda hcursor hposition =>
    have hstep' := h.step_of_end hs' hagenda hcursor
    rw [if_neg (Nat.not_lt.2 hposition)] at hstep'
    exact ⟨_, hstep', h.chart⟩

end State.ErasesTo

/-- Every state of a recognition has its counterpart where first derivations are kept. -/
theorem Reachable.exists_erasesTo (h : r.Reachable s) :
    ∃ s', r.keepingFirst.Reachable s' ∧ s.ErasesTo s' := by
  induction h with
  | refl => exact ⟨r.keepingFirst.initial, .refl, erasesTo_initial r⟩
  | tail hs hleads ih =>
    obtain ⟨s', hs', herases⟩ := ih
    exact herases.leads hs hs' hleads

/-- The chart of a recognition erases to the one where first derivations are kept. -/
theorem exists_chart_erasesTo (r : Recognition T N H Tok) :
    ∃ chart chart', r.chart = .ok chart ∧ r.keepingFirst.chart = .ok chart' ∧
      chart.ErasesTo chart' := by
  obtain ⟨chart, last, hchart, hlast, hclosed⟩ := r.exists_reachable_closed
  obtain ⟨last', hlast', herases⟩ := hlast.exists_erasesTo
  obtain ⟨chart', hclosed', hchart'⟩ := herases.close hlast hlast' hclosed
  exact ⟨chart, chart', hchart, hlast'.chart_eq hclosed', hchart'⟩

end Earley.Recognition
