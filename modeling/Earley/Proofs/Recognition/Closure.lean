import Earley.Proofs.Recognition.Invariant

/-!
# Closure

Whatever can be done with a slot that has been taken up has been done or stands on the agenda: its
derivations are continued over the next token and over every finished slot taken up, and the rules of
the next nonterminal are predicted. A late alternative of such a slot is continued at once, so the
order in which derivations and finished slots come does not matter.
-/

namespace Earley

/-- The chart records a derivation. Where the first derivation of a key is kept, another one of the
    same key and position stands for it. -/
def Chart.Records (chart : Chart) : AmbiguityPolicy → Item → Prop
  | .merge, item => item ∈ chart.arena
  | .keepFirst, item => ∃ other ∈ chart.arena, other.key = item.key ∧ other.stop = item.stop

namespace Chart

variable {chart chart' : Chart} {policy : AmbiguityPolicy} {item : Item} {insertion : Insertion}

theorem Records.of_mem (h : item ∈ chart.arena) : chart.Records policy item := by
  cases policy with
  | merge => exact h
  | keepFirst => exact ⟨item, h, rfl, rfl⟩

theorem Records.holds (h : chart.Records policy item) : chart.Holds item := by
  cases policy with
  | merge => exact ⟨item, h, rfl, rfl⟩
  | keepFirst => exact h

/-- The item that stands for a recorded one. Where derivations are merged, that is the item itself. -/
theorem Records.exists_mem (h : chart.Records policy item) :
    ∃ other ∈ chart.arena, other.key = item.key ∧ other.stop = item.stop ∧
      (policy = .merge → other = item) := by
  cases policy with
  | merge => exact ⟨item, h, rfl, rfl, fun _ => rfl⟩
  | keepFirst =>
    obtain ⟨other, hother, hkey, hstop⟩ := h
    exact ⟨other, hother, hkey, hstop, by simp⟩

theorem Records.mono (h : chart.Records policy item) (hextends : chart'.Extends chart) :
    chart'.Records policy item := by
  cases policy with
  | merge => exact hextends.mem_arena h
  | keepFirst =>
    obtain ⟨other, hother, hsame⟩ := h
    exact ⟨other, hextends.mem_arena hother, hsame⟩

/-- An inserted item is recorded. -/
theorem Inserts.records (h : chart.Inserts item policy insertion chart') (hwf : chart.WellFormed) :
    chart'.Records policy item := by
  cases h with
  | added => exact .of_mem Array.mem_push_self
  | duplicate _ hmem => exact .of_mem hmem
  | merged => exact .of_mem Array.mem_push_self
  | dropped hslot _ hpolicy =>
    subst hpolicy
    obtain ⟨hmem, first, hfirst, hkey⟩ := hwf.slot_key hslot
    exact ⟨first, Array.mem_of_getElem? hfirst, hkey, hwf.stop_of_mem_slotsAt hmem hfirst⟩

end Chart

namespace Recognition

variable {T N H Tok : Type} [DecidableEq N]

/-- The slot at a position has been taken up. -/
def State.HasTaken (s : State N) (position : Nat) (slot : ItemId) : Prop :=
  position < s.position ∨ position = s.position ∧ slot ∈ s.taken

/-- The slot of an item has been taken up. -/
def State.Settled (s : State N) (item : Item) : Prop :=
  ∃ slot, s.chart.slotOf? item.stop item.key = some slot ∧ s.HasTaken item.stop slot

/-- The item is recorded or is about to be. -/
def Pending (r : Recognition T N H Tok) (s : State N) (item : Item) : Prop :=
  s.chart.Records r.policy item ∨ item ∈ s.agenda

omit [DecidableEq N] in
/-- At the end of a column all slots up to there have been taken up. -/
theorem State.hasTaken_of_le {s : State N} (hcursor : (s.chart.slotsAt s.position).length ≤ s.cursor)
    {position : Nat} {slot : ItemId} (hslot : slot ∈ s.chart.slotsAt position)
    (hle : position ≤ s.position) : s.HasTaken position slot := by
  rcases Nat.lt_or_eq_of_le hle with hlt | rfl
  · exact .inl hlt
  · refine .inr ⟨rfl, ?_⟩
    rw [State.taken, List.take_of_length_le hcursor]
    exact hslot

theorem Pending.records {r : Recognition T N H Tok} {s : State N} {item : Item}
    (h : r.Pending s item) (hagenda : s.agenda = []) : s.chart.Records r.policy item := by
  rcases h with hrecords | hmem
  · exact hrecords
  · rw [hagenda] at hmem
    cases hmem

variable [Terminal T Tok]

/-- A state in which nothing has been forgotten. -/
structure Closed (r : Recognition T N H Tok) (s : State N) : Prop where
  start : ∀ {id : RuleId}, id ∈ r.grammar.startRules → r.Pending s (.predicted id 0)
  predict : ∀ {item : Item} {n : N} {id : RuleId}, item ∈ s.chart.arena → s.Settled item →
    item.Expects r.grammar (.nonterminal n) → id ∈ r.grammar.rulesFor n →
    r.Pending s (.predicted id item.stop)
  scan : ∀ {item : Item} {t : T}, item ∈ s.chart.arena → s.Settled item →
    item.Expects r.grammar (.terminal t) → AdmitsAt r.tokens item.stop t → r.Pending s item.scan
  complete : ∀ {item : Item} {n : N} {position : Nat} {slot : ItemId}, item ∈ s.chart.arena →
    s.Settled item → item.Expects r.grammar (.nonterminal n) →
    s.chart.FinishedSlot r.grammar n item.stop position slot → s.HasTaken position slot →
    r.Pending s (item.advance position slot)

variable {r : Recognition T N H Tok} {s s' : State N}

/-- At the beginning no slot has been taken up, and the start rules are on the agenda. -/
theorem closed_initial (r : Recognition T N H Tok) : r.Closed r.initial where
  start hid := .inr (List.mem_map_of_mem hid)
  predict h := by simp [initial, Chart.empty] at h
  scan h := by simp [initial, Chart.empty] at h
  complete h := by simp [initial, Chart.empty] at h

/-- Finished slots that begin at the current position and have been taken up are the known empty
    derivations. -/
theorem mem_nullable_of_finishedSlot (hs : r.Sound s) (ht : r.Tracked s) {n : N} {position : Nat}
    {slot : ItemId} (hslot : s.chart.FinishedSlot r.grammar n s.position position slot)
    (htaken : s.HasTaken position slot) : position = s.position ∧ (n, slot) ∈ s.nullable := by
  have hspan := hs.le_of_finishedSlot hslot
  rcases htaken with hbefore | ⟨rfl, htaken⟩
  · omega
  · exact ⟨rfl, ht.mem_nullable_iff.2 ⟨htaken, hslot⟩⟩

section Insert

variable (hs : r.Sound s) {item : Item} {agenda items : List Item} {insertion : Insertion}
  {chart : Chart} (hagenda : s.agenda = item :: agenda)
  (hinserts : s.chart.Inserts item r.policy insertion chart)
include hs hagenda hinserts

theorem Pending.insert {other : Item} (h : r.Pending s other) :
    r.Pending { s with chart, agenda := items ++ agenda } other := by
  have hlt := hs.agenda_stop_lt (hagenda ▸ List.mem_cons_self)
  rcases h with hrecords | hmem
  · exact .inl (hrecords.mono (hinserts.chart_extends hlt))
  · rw [hagenda] at hmem
    rcases List.mem_cons.1 hmem with rfl | hmem
    · exact .inl (hinserts.records hs.wellFormed)
    · exact .inr (List.mem_append_right _ hmem)

/-- Slots that have been taken up were there before an insertion. -/
theorem mem_slotsAt_of_hasTaken_insert (ht : r.Tracked s) {position : Nat} {slot : ItemId}
    (hslot : slot ∈ chart.slotsAt position)
    (h : State.HasTaken { s with chart, agenda := items ++ agenda } position slot) :
    slot ∈ s.chart.slotsAt position ∧ s.HasTaken position slot := by
  have hitem : item ∈ s.agenda := hagenda ▸ List.mem_cons_self
  have hlt := hs.agenda_stop_lt hitem
  rcases h with hbefore | ⟨rfl, htaken⟩
  · obtain ⟨opened, hslots, hopened⟩ := hinserts.slotsAt_eq_append hlt position
    have hstop : item.stop ≠ position := by
      have hposition : position < s.position := hbefore
      rcases hs.agenda_stop hitem with hstop | ⟨hstop, _⟩ <;> omega
    rw [hslots, hopened.resolve_right hstop, List.append_nil] at hslot
    exact ⟨hslot, .inl hbefore⟩
  · have htaken : slot ∈ s.taken := by
      rw [← ht.taken_insert hinserts hlt]
      exact htaken
    exact ⟨List.mem_of_mem_take htaken, .inr ⟨rfl, htaken⟩⟩

/-- An item whose slot has been taken up was settled before an insertion, or it is the inserted item
    and came as a late alternative. -/
theorem settled_insert_cases (ht : r.Tracked s) {other : Item} (hother : other ∈ chart.arena)
    (h : State.Settled { s with chart, agenda := items ++ agenda } other) :
    (other ∈ s.chart.arena ∧ s.Settled other) ∨
      other = item ∧ item.stop = s.position ∧
        ∃ slot alternative, insertion = .merged slot alternative ∧ slot ∈ s.taken := by
  have hitem : item ∈ s.agenda := hagenda ▸ List.mem_cons_self
  have hlt := hs.agenda_stop_lt hitem
  have hwf := hinserts.wellFormed hs.wellFormed hlt
  have hextends := hinserts.chart_extends hlt
  obtain ⟨slot, hslot, htaken⟩ := h
  obtain ⟨hmem, htaken⟩ := mem_slotsAt_of_hasTaken_insert hs hagenda hinserts ht
    (hwf.slot_key hslot).1 htaken
  have hkey := hextends.slotOf?_eq hs.wellFormed hwf hmem hslot
  rcases hinserts.mem_arena_cases hother with hold | rfl
  · exact .inl ⟨hold, slot, hkey, htaken⟩
  · have hstop : other.stop = s.position ∧ slot ∈ s.taken := by
      rcases htaken with hbefore | ⟨hhere, htaken⟩
      · rcases hs.agenda_stop hitem with hstop | ⟨hstop, _⟩ <;> omega
      · exact ⟨hhere, htaken⟩
    cases hinserts with
    | added hfresh =>
      rw [hfresh] at hkey
      cases hkey
    | duplicate _ hmem => exact .inl ⟨hmem, slot, hkey, .inr hstop⟩
    | merged hslot' =>
      rw [hslot'] at hkey
      cases hkey
      exact .inr ⟨rfl, hstop.1, _, _, rfl, hstop.2⟩
    | dropped => exact .inl ⟨hother, slot, hkey, .inr hstop⟩

theorem Closed.insert (h : r.Closed s) (ht : r.Tracked s)
    (hitems : ∀ other, other ∈ items ↔
      (∃ slot alternative, insertion = .merged slot alternative ∧ slot ∈ s.taken) ∧
        r.Continues s.position s.nullable item other) :
    r.Closed { s with chart, agenda := items ++ agenda } := by
  have hlt := hs.agenda_stop_lt (hagenda ▸ List.mem_cons_self)
  have hextends := hinserts.chart_extends hlt
  have hkept : ∀ {other : Item}, r.Pending s other →
      r.Pending { s with chart, agenda := items ++ agenda } other :=
    fun hother => hother.insert hs hagenda hinserts
  constructor
  · intro id hid
    exact hkept (h.start hid)
  · intro other n id hother hsettled hexpects hid
    rcases settled_insert_cases hs hagenda hinserts ht hother hsettled with
      ⟨hold, hsettled⟩ | ⟨rfl, hstop, slot, alternative, rfl, htaken⟩
    · exact hkept (h.predict hold hsettled hexpects hid)
    · -- The slot of a late alternative has been taken up, and predicted the same rules.
      cases hinserts with
      | merged hslot =>
        obtain ⟨hmem, first, hfirst, hkey⟩ := hs.wellFormed.slot_key hslot
        have hend := hs.wellFormed.stop_of_mem_slotsAt hmem hfirst
        have hpredicted := h.predict (Array.mem_of_getElem? hfirst)
          ⟨slot, by rw [hend, hkey]; exact hslot, .inr ⟨hend.trans hstop, htaken⟩⟩
          (hexpects.of_key_eq hkey) hid
        rw [hend] at hpredicted
        exact hkept hpredicted
  · intro other t hother hsettled hexpects hadmits
    rcases settled_insert_cases hs hagenda hinserts ht hother hsettled with
      ⟨hold, hsettled⟩ | ⟨rfl, hstop, hmerged⟩
    · exact hkept (h.scan hold hsettled hexpects hadmits)
    · rw [hstop] at hadmits
      exact .inr (List.mem_append_left _
        ((hitems _).2 ⟨hmerged, .inl ⟨t, hexpects, hadmits, rfl⟩⟩))
  · intro other n position slot hother hsettled hexpects hslot htaken
    obtain ⟨hmem, htaken⟩ := mem_slotsAt_of_hasTaken_insert hs hagenda hinserts ht hslot.1 htaken
    have hslot := hslot.of_extends hs.wellFormed hextends hmem
    rcases settled_insert_cases hs hagenda hinserts ht hother hsettled with
      ⟨hold, hsettled⟩ | ⟨rfl, hstop, hmerged⟩
    · exact hkept (h.complete hold hsettled hexpects hslot htaken)
    · rw [hstop] at hslot
      obtain ⟨rfl, hnullable⟩ := mem_nullable_of_finishedSlot hs ht hslot htaken
      exact .inr (List.mem_append_left _
        ((hitems _).2 ⟨hmerged, .inr ⟨n, slot, hexpects, hnullable, rfl⟩⟩))

end Insert

section Take

variable {slot : ItemId} {first : Item} {items : List Item} {nullable : List (N × ItemId)}
  (hagenda : s.agenda = []) (hslot : (s.chart.slotsAt s.position)[s.cursor]? = some slot)
include hslot

omit [DecidableEq N] in
theorem hasTaken_take_cases {position : Nat} {other : ItemId}
    (h : State.HasTaken ⟨s.chart, s.position, s.cursor + 1, some slot, nullable, items⟩
      position other) :
    s.HasTaken position other ∨ position = s.position ∧ other = slot := by
  rcases h with hbefore | ⟨rfl, htaken⟩
  · exact .inl (.inl hbefore)
  · rw [State.taken_take hslot, List.mem_append, List.mem_singleton] at htaken
    exact htaken.imp (fun h => .inr ⟨rfl, h⟩) fun h => ⟨rfl, h⟩

/-- An item whose slot has been taken up was settled before, or shares the key of the slot that is
    taken up. -/
theorem settled_take_cases (hs : r.Sound s) (hfirst : s.chart.arena[slot]? = some first)
    {item : Item}
    (h : State.Settled ⟨s.chart, s.position, s.cursor + 1, some slot, nullable, items⟩ item) :
    s.Settled item ∨ item.stop = s.position ∧ item.key = first.key := by
  obtain ⟨other, hother, htaken⟩ := h
  rcases hasTaken_take_cases hslot htaken with htaken | ⟨hstop, rfl⟩
  · exact .inl ⟨other, hother, htaken⟩
  · obtain ⟨_, found, hfound, hkey⟩ := hs.wellFormed.slot_key hother
    rw [hfirst] at hfound
    cases hfound
    exact .inr ⟨hstop, hkey.symm⟩

include hagenda

theorem Closed.take (h : r.Closed s) (hs : r.Sound s) (ht : r.Tracked s)
    (hfirst : s.chart.arena[slot]? = some first)
    (hitems : ∀ other, other ∈ items ↔
      r.Arises s.chart s.position s.nullable slot first other) :
    r.Closed ⟨s.chart, s.position, s.cursor + 1, some slot, nullable, items⟩ := by
  have hkept : ∀ {other : Item}, r.Pending s other →
      r.Pending ⟨s.chart, s.position, s.cursor + 1, some slot, nullable, items⟩ other := by
    intro other hother
    exact .inl (hother.records hagenda)
  constructor
  · intro id hid
    exact hkept (h.start hid)
  · intro item n id hitem hsettled hexpects hid
    rcases settled_take_cases hslot hs hfirst hsettled with hsettled | ⟨hstop, hkey⟩
    · exact hkept (h.predict hitem hsettled hexpects hid)
    · rw [hstop]
      exact .inr ((hitems _).2 (.predict (hexpects.of_key_eq hkey.symm) hid))
  · intro item t hitem hsettled hexpects hadmits
    rcases settled_take_cases hslot hs hfirst hsettled with hsettled | ⟨hstop, hkey⟩
    · exact hkept (h.scan hitem hsettled hexpects hadmits)
    · rw [hstop] at hadmits
      exact .inr ((hitems _).2 (.proceed hitem hstop hkey (.inl ⟨t, hexpects, hadmits, rfl⟩)))
  · intro item n position child hitem hsettled hexpects hchild htaken
    rcases hasTaken_take_cases hslot htaken with htaken | ⟨rfl, rfl⟩
    · rcases settled_take_cases hslot hs hfirst hsettled with hsettled | ⟨hstop, hkey⟩
      · exact hkept (h.complete hitem hsettled hexpects hchild htaken)
      · rw [hstop] at hchild
        obtain ⟨rfl, hnullable⟩ := mem_nullable_of_finishedSlot hs ht hchild htaken
        exact .inr ((hitems _).2
          (.proceed hitem hstop hkey (.inr ⟨n, child, hexpects, hnullable, rfl⟩)))
    · -- The slot that is taken up completes every item that waits for it.
      obtain ⟨_, found, hfound, horigin, hfinishes⟩ := hchild
      rw [hfirst] at hfound
      cases hfound
      exact .inr ((hitems _).2 (.complete hfinishes hitem horigin.symm hexpects))

end Take

section Advance

variable (hcursor : (s.chart.slotsAt s.position).length ≤ s.cursor)
include hcursor

omit [DecidableEq N] in
theorem hasTaken_of_advance {position : Nat} {slot : ItemId}
    (hslot : slot ∈ s.chart.slotsAt position)
    (h : State.HasTaken (⟨s.chart, s.position + 1, 0, none, [], []⟩ : State N) position slot) :
    s.HasTaken position slot := by
  rcases h with hbefore | ⟨_, htaken⟩
  · exact State.hasTaken_of_le hcursor hslot (Nat.le_of_lt_succ hbefore)
  · exact absurd htaken (by simp [State.taken])

theorem Closed.advance (h : r.Closed s) (hs : r.Sound s) (hagenda : s.agenda = []) :
    r.Closed ⟨s.chart, s.position + 1, 0, none, [], []⟩ := by
  have hkept : ∀ {other : Item}, r.Pending s other →
      r.Pending ⟨s.chart, s.position + 1, 0, none, [], []⟩ other := by
    intro other hother
    exact .inl (hother.records hagenda)
  have hsettled : ∀ {item : Item},
      State.Settled (⟨s.chart, s.position + 1, 0, none, [], []⟩ : State N) item →
        s.Settled item := by
    rintro item ⟨slot, hslot, htaken⟩
    have hmem := (hs.wellFormed.slot_key hslot).1
    exact ⟨slot, hslot, hasTaken_of_advance hcursor hmem htaken⟩
  constructor
  · intro id hid
    exact hkept (h.start hid)
  · intro item n id hitem hitemSettled hexpects hid
    exact hkept (h.predict hitem (hsettled hitemSettled) hexpects hid)
  · intro item t hitem hitemSettled hexpects hadmits
    exact hkept (h.scan hitem (hsettled hitemSettled) hexpects hadmits)
  · intro item n position slot hitem hitemSettled hexpects hslot htaken
    exact hkept (h.complete hitem (hsettled hitemSettled) hexpects hslot
      (hasTaken_of_advance hcursor hslot.1 htaken))

end Advance

/-- Nothing is forgotten on the way. -/
theorem Closed.transition (h : r.Closed s) (hs : r.Sound s) (ht : r.Tracked s)
    (htransition : r.Transition s (.running s')) : r.Closed s' := by
  cases htransition with
  | insert hagenda hinserts hitems => exact h.insert hs hagenda hinserts ht hitems
  | take hagenda hslot hfirst hitems => exact h.take hagenda hslot hs ht hfirst hitems
  | advance hagenda hcursor => exact h.advance hcursor hs hagenda

end Recognition

end Earley
