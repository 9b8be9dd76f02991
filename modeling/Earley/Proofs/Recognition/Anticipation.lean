import Earley.Proofs.Recognition.Rest

/-!
# Late items

An item comes late if the slot of its key has been taken up already. Where it becomes an alternative, it
is followed at once, while the slots that complete it may still have work to do. Nevertheless following
opens no slots: whatever is found on the way from a late item to the next has a slot already.

The delicate moment is when an empty derivation is taken up. It is known from then on, but the items that
wait for it are moved over it only one after another, and a late one among them may be followed over it
ahead of the others. Such an item shares its slot with one that was moved over another derivation of the
same nonterminal. If that one is empty as well, what follows has been found with it before. If it is not,
it began in a closed column, where all empty derivations that are waited for are known.
-/

namespace Earley.Recognition

variable {T N H Tok : Type} [DecidableEq N] [Terminal T Tok]

/-- The slot of the item's key has been taken up in the current column. -/
def State.Late (s : State N) (item : Item) : Prop :=
  ∃ slot ∈ s.taken, s.chart.slotOf? item.stop item.key = some slot

/-- If it became an alternative, the item would be followed to this one. -/
def Follows (r : Recognition T N H Tok) (s : State N) (item other : Item) : Prop :=
  s.Late item ∧ r.Continues s.position s.nullable item other

/-- Following opens no slots from this item on. -/
def Anticipated (r : Recognition T N H Tok) (s : State N) (item : Item) : Prop :=
  ∀ last next, Relation.ReflTransGen (r.Follows s) item last → r.Follows s last next →
    s.chart.Holds next

variable {r : Recognition T N H Tok} {s s' : State N} {item other : Item}

theorem Sound.stop_of_late (hs : r.Sound s) (hlate : s.Late item) :
    item.stop = s.position := by
  obtain ⟨slot, htaken, hslot⟩ := hlate
  exact stop_of_slotOf?_mem_taken hs.wellFormed hslot htaken

/-- Continuations belong to the same rule and origin, with the dot one symbol further. -/
theorem Continues.key_eq {position : Nat} {nullable : List (N × ItemId)}
    (h : r.Continues position nullable item other) : other.key = item.key.next := by
  obtain ⟨_, _, _, rfl⟩ | ⟨_, _, _, _, rfl⟩ := h <;> rfl

theorem Continues.mono {position : Nat} {nullable nullable' : List (N × ItemId)}
    (h : r.Continues position nullable' item other)
    (hold : ∀ {n id}, (n, id) ∈ nullable' → (n, id) ∈ nullable) :
    r.Continues position nullable item other := by
  obtain hscan | ⟨n, id, hexpects, hid, hother⟩ := h
  · exact .inl hscan
  · exact .inr ⟨n, id, hexpects, hold hid, hother⟩

theorem dot_le_of_follows (h : Relation.ReflTransGen (r.Follows s) item other) :
    item.dot ≤ other.dot := by
  induction h with
  | refl => exact Nat.le_refl _
  | tail _ hstep ih =>
    have hdot := congrArg ItemKey.dot hstep.2.key_eq
    simp only [Item.key, ItemKey.next] at hdot
    omega

/-- The state in which one more slot has been taken up. -/
abbrev State.takeUp (s : State N) (slot : ItemId) (nullable : List (N × ItemId))
    (items : List Item) : State N :=
  ⟨s.chart, s.position, s.cursor + 1, some slot, nullable, items⟩

section Rest

variable (h : r.Invariant s) (hagenda : s.agenda = [])
include h hagenda

/-- At rest the continuations of late items are held. -/
theorem Invariant.holds_of_late (hlate : s.Late item)
    (hcontinues : r.Continues s.position s.nullable item other) : s.chart.Holds other := by
  have hstop := h.sound.stop_of_late hlate
  obtain ⟨slot, htaken, hslot⟩ := hlate
  obtain ⟨hmem, first, hfirst, hkey⟩ := h.sound.wellFormed.slot_key hslot
  have hend := h.sound.wellFormed.stop_of_mem_slotsAt hmem hfirst
  have hhere := hend.trans hstop
  have hfirstMem := Array.mem_of_getElem? hfirst
  have hsettled : s.Settled first := by
    refine ⟨slot, ?_, .inr ⟨hhere, htaken⟩⟩
    rw [hend, hkey]
    exact hslot
  obtain ⟨t, hexpects, hadmits, rfl⟩ | ⟨n, id, hexpects, hid, rfl⟩ := hcontinues
  · rw [← hhere] at hadmits
    obtain ⟨next, hnext, hnextKey, hnextStop⟩ :=
      (h.closed.scan hfirstMem hsettled (hexpects.of_key_eq hkey) hadmits).holds hagenda
    refine ⟨next, hnext, ?_, hnextStop.trans (congrArg Nat.succ hend)⟩
    rw [hnextKey, Item.key_scan, Item.key_scan, hkey]
  · obtain ⟨hidTaken, hidSlot⟩ := h.tracked.mem_nullable_iff.1 hid
    have hchild : s.chart.FinishedSlot r.grammar n first.stop s.position id := by
      rw [hhere]
      exact hidSlot
    obtain ⟨next, hnext, hnextKey, hnextStop⟩ :=
      (h.closed.complete hfirstMem hsettled (hexpects.of_key_eq hkey) hchild
        (.inr ⟨rfl, hidTaken⟩)).holds hagenda
    refine ⟨next, hnext, ?_, hnextStop⟩
    rw [hnextKey, Item.key_advance, Item.key_advance, hkey]

omit hagenda in
/-- A late item that was moved over a nonterminal shares its slot with an item that was moved over a
    derivation taken up before. -/
theorem Invariant.exists_moved_of_late (hlate : s.Late item) {parent : Item} {n : N}
    (hkey : item.key = parent.key.next) (hexpects : parent.Expects r.grammar (.nonterminal n)) :
    ∃ before ∈ s.chart.arena, before.key = parent.key ∧ ∃ child ∈ s.taken,
      s.chart.FinishedSlot r.grammar n before.stop s.position child := by
  have hstop := h.sound.stop_of_late hlate
  obtain ⟨slot, htaken, hslot⟩ := hlate
  obtain ⟨hmem, first, hfirst, hfirstKey⟩ := h.sound.wellFormed.slot_key hslot
  have hend := (h.sound.wellFormed.stop_of_mem_slotsAt hmem hfirst).trans hstop
  have hsame : first.key = parent.key.next := hfirstKey.trans hkey
  have hlineage := h.rooted.arena hfirst
  cases hlineage with
  | start => cases hsame
  | predict => cases hsame
  | scan _ hbefore hterminal =>
    cases hterminal.unique (hexpects.of_key_eq (ItemKey.next_inj hsame))
  | @advance _ before _ _ child _ hbefore hnonterminal hchild =>
    have hbeforeKey : before.key = parent.key := ItemKey.next_inj hsame
    cases hnonterminal.unique (hexpects.of_key_eq hbeforeKey)
    obtain rfl : _ = s.position := hend
    have hlt := h.sound.backpointers_lt hfirst child (by simp [Item.advance])
    exact ⟨before, Array.mem_of_getElem? hbefore, hbeforeKey, child,
      h.sound.wellFormed.mem_take_of_le htaken hchild.1 (Nat.le_of_lt hlt), hchild⟩

end Rest

section Take

variable (h : r.Invariant s) (hagenda : s.agenda = []) {slot : ItemId} {first : Item}
  {items : List Item} {nullable : List (N × ItemId)}
  (hslot : (s.chart.slotsAt s.position)[s.cursor]? = some slot)
  (hfirst : s.chart.arena[slot]? = some first)

omit [DecidableEq N] in
include hslot in
theorem State.Late.takeUp (hlate : s.Late item) : (s.takeUp slot nullable items).Late item := by
  obtain ⟨found, htaken, hfound⟩ := hlate
  refine ⟨found, ?_, hfound⟩
  rw [State.taken_take hslot]
  exact List.mem_append_left _ htaken

include h hslot hfirst in
/-- Taking up a slot makes no items late but those of its key. -/
theorem late_takeUp_cases (hlate : (s.takeUp slot nullable items).Late item) :
    s.Late item ∨ item.key = first.key := by
  obtain ⟨found, htaken, hfound⟩ := hlate
  rw [State.taken_take hslot] at htaken
  rcases List.mem_append.1 htaken with hold | hnew
  · exact .inl ⟨found, hold, hfound⟩
  · obtain rfl := List.mem_singleton.1 hnew
    obtain ⟨_, other, hother, hkey⟩ := h.sound.wellFormed.slot_key hfound
    rw [hfirst] at hother
    cases hother
    exact .inr hkey.symm

include h hagenda in
/-- Where the known empty derivations are finished slots of the chart, what late items are followed to
    was found at each closed column that has the item they come from. -/
theorem Invariant.holds_at_closed_column (hnullable : ∀ {n id}, (n, id) ∈ nullable →
      s.chart.FinishedSlot r.grammar n s.position s.position id) {column : Nat}
    (hcolumn : column < s.position) (hholds : s.chart.Holds { item with stop := column })
    (hpath : Relation.ReflTransGen (r.Follows (s.takeUp slot nullable items)) item other)
    (hlate : (s.takeUp slot nullable items).Late other) :
    s.chart.Holds { other with stop := column } := by
  induction hpath with
  | refl => exact hholds
  | @tail last next _ hstep ih =>
    have hlast := ih hstep.1
    have hwf : (s.takeUp slot nullable items).chart.WellFormed := h.sound.wellFormed
    obtain ⟨found, htaken, hfound⟩ := hlate
    have hhere := stop_of_slotOf?_mem_taken hwf hfound htaken
    obtain ⟨lastSlot, hlastTaken, hlastSlot⟩ := hstep.1
    have hlastHere := stop_of_slotOf?_mem_taken hwf hlastSlot hlastTaken
    obtain ⟨_, _, _, rfl⟩ | ⟨n, id, hexpects, hid, rfl⟩ := hstep.2
    · exact absurd (hhere.trans hlastHere.symm) (Nat.succ_ne_self _)
    · obtain ⟨child, hchild⟩ :=
        h.exists_empty_finishedSlot hagenda (hnullable hid) hlast hcolumn hexpects
      have hnext := h.holds_advance hagenda hlast hcolumn hexpects hchild (.inl hcolumn)
      exact hnext

include h hagenda hslot hfirst

/-- Taking up an empty derivation yields nothing from which following opens slots. -/
theorem Invariant.holds_of_completed {parent last : Item} {n : N}
    (htracked : r.Tracked (s.takeUp slot nullable items)) (hid : (n, slot) ∈ nullable)
    (hfinishes : first.Finishes r.grammar n) (hexpects : parent.Expects r.grammar (.nonterminal n))
    (hpath : Relation.ReflTransGen (r.Follows (s.takeUp slot nullable items))
      (parent.advance s.position slot) last)
    (hlast : s.Late last) (hnext : last.Expects r.grammar (.nonterminal n)) :
    s.chart.Holds (last.advance s.position slot) := by
  have hempty := (htracked.mem_nullable_iff.1 hid).2
  have hitem : s.Late (parent.advance s.position slot) := by
    rcases hpath.cases_head with heq | ⟨_, hstep, _⟩
    · exact heq ▸ hlast
    · refine (late_takeUp_cases h hslot hfirst hstep.1).resolve_right fun hkey => ?_
      exact not_continues_of_finishes (hfinishes.of_key_eq hkey) hstep.2
  obtain ⟨before, hbefore, hkey, child, htaken, hchild⟩ :=
    h.exists_moved_of_late hitem (Item.key_advance parent _ _) hexpects
  rcases Nat.lt_or_eq_of_le (h.sound.le_of_finishedSlot hchild) with hclosed | hhere
  · -- The item was moved before in a closed column, and from there on its rule was moved over empty
    -- derivations, up to the derivation that made the slot.
    have hholds : s.chart.Holds before := ⟨before, hbefore, rfl, rfl⟩
    have hwaits := hexpects.of_key_eq hkey
    obtain ⟨other, hother⟩ := h.exists_empty_finishedSlot hagenda hempty hholds hclosed hwaits
    have hmoved := h.holds_advance hagenda hholds hclosed hwaits hother (.inl hclosed)
    have hstart : s.chart.Holds { parent.advance s.position slot with stop := before.stop } := by
      obtain ⟨found, hfound, hfoundKey, hfoundStop⟩ := hmoved
      refine ⟨found, hfound, hfoundKey.trans ?_, hfoundStop⟩
      rw [Item.key_advance, hkey]
      rfl
    have hend := h.holds_at_closed_column hagenda (fun hid => (htracked.mem_nullable_iff.1 hid).2)
      hclosed hstart hpath (hlast.takeUp hslot)
    have hfinal := h.holds_advance hagenda hend hclosed hnext hchild (.inr ⟨rfl, htaken⟩)
    exact hfinal
  · have hknown : (n, child) ∈ s.nullable := by
      rw [hhere] at hchild
      exact h.tracked.mem_nullable_iff.2 ⟨htaken, hchild⟩
    have hother := h.holds_of_late hagenda hlast (.inr ⟨n, child, hnext, hknown, rfl⟩)
    exact hother

/-- Following opens no slots from the items that taking up a slot yields. -/
theorem Invariant.anticipated_of_arises
    (hnullable : ∀ n id, (n, id) ∈ nullable ↔ (n, id) ∈ s.nullable ∨
      id = slot ∧ first.origin = s.position ∧ first.Finishes r.grammar n)
    (harises : r.Arises s.chart s.position s.nullable slot first item) (hdot : item.dot ≠ 0) :
    r.Anticipated (s.takeUp slot nullable items) item := by
  have htracked : r.Tracked (s.takeUp slot nullable items) := h.tracked.take hslot hfirst hnullable
  intro last next hpath ⟨hlate, hcontinues⟩
  have hsame := late_takeUp_cases h hslot hfirst hlate
  cases harises with
  | predict => exact absurd rfl hdot
  | @proceed before _ _ _ hkey hbefore =>
    -- The dots of the items that are followed are ahead of the dot of the slot that is taken up.
    have hlast : s.Late last := by
      refine hsame.resolve_right fun hlastKey => ?_
      have hle := dot_le_of_follows hpath
      have hitem := congrArg ItemKey.dot hbefore.key_eq
      have hbeforeDot := congrArg ItemKey.dot hkey
      have hlastDot := congrArg ItemKey.dot hlastKey
      simp only [Item.key, ItemKey.next] at hitem hbeforeDot hlastDot
      omega
    refine h.holds_of_late hagenda hlast (hcontinues.mono fun {n id} hid => ?_)
    refine ((hnullable n id).1 hid).resolve_right fun hnew => ?_
    exact not_continues_of_finishes (hnew.2.2.of_key_eq hkey) hbefore
  | complete hfinishes _ _ hexpects =>
    have hlast : s.Late last := by
      refine hsame.resolve_right fun hkey => ?_
      exact not_continues_of_finishes (hfinishes.of_key_eq hkey) hcontinues
    obtain hscan | ⟨n, id, hnext, hid, rfl⟩ := hcontinues
    · exact h.holds_of_late hagenda hlast (.inl hscan)
    · rcases (hnullable n id).1 hid with hold | ⟨rfl, _, hhead⟩
      · exact h.holds_of_late hagenda hlast (.inr ⟨n, id, hnext, hold, rfl⟩)
      · cases hfinishes.unique hhead
        exact h.holds_of_completed hagenda hslot hfirst htracked hid hfinishes hexpects hpath hlast
          hnext

end Take

/-- Following opens no slots from the items on the agenda, predictions apart. -/
def Anticipates (r : Recognition T N H Tok) (s : State N) : Prop :=
  ∀ item ∈ s.agenda, item.dot ≠ 0 → r.Anticipated s item

section Insert

variable (hs : r.Sound s) (ht : r.Tracked s) {agenda items : List Item} {insertion : Insertion}
  {chart : Chart} (hagenda : s.agenda = item :: agenda)
  (hinserts : s.chart.Inserts item r.policy insertion chart)
include hs ht hagenda hinserts

/-- An insertion makes no items late. -/
theorem late_of_late_insert (hlate : State.Late { s with chart, agenda := items ++ agenda } other) :
    s.Late other := by
  have hlt := hs.agenda_stop_lt (hagenda ▸ List.mem_cons_self)
  have hwf := hinserts.wellFormed hs.wellFormed hlt
  obtain ⟨slot, htaken, hslot⟩ := hlate
  have hstop := stop_of_slotOf?_mem_taken (s := { s with chart, agenda := items ++ agenda }) hwf
    hslot htaken
  have hold : slot ∈ s.taken := by
    rw [← ht.taken_insert hinserts hlt]
    exact htaken
  have hmem : slot ∈ s.chart.slotsAt other.stop := by
    rw [hstop]
    exact List.mem_of_mem_take hold
  exact ⟨slot, hold, (hinserts.chart_extends hlt).slotOf?_eq hs.wellFormed hwf hmem hslot⟩

theorem Anticipated.insert (h : r.Anticipated s other) :
    r.Anticipated { s with chart, agenda := items ++ agenda } other := by
  have hextends := hinserts.chart_extends (hs.agenda_stop_lt (hagenda ▸ List.mem_cons_self))
  have hfollows : ∀ {a b : Item}, r.Follows { s with chart, agenda := items ++ agenda } a b →
      r.Follows s a b :=
    fun hstep => ⟨late_of_late_insert hs ht hagenda hinserts hstep.1, hstep.2⟩
  intro last next hpath hstep
  have hholds := h last next (Relation.ReflTransGen.mono (fun _ _ => hfollows) _ _ hpath)
    (hfollows hstep)
  exact hholds.mono hextends

omit ht hinserts in
/-- Only an item that has been moved becomes an alternative: predictions of one key are equal. -/
theorem dot_ne_zero_of_not_mem {slot : ItemId}
    (hslot : s.chart.slotOf? item.stop item.key = some slot) (hnew : item ∉ s.chart.arena) :
    item.dot ≠ 0 := by
  intro hdot
  obtain ⟨rule, hjustified⟩ := hs.agenda_justified (hagenda ▸ List.mem_cons_self)
  obtain ⟨_, first, hfirst, hkey⟩ := hs.wellFormed.slot_key hslot
  have hmem := Array.mem_of_getElem? hfirst
  obtain ⟨_, hfirstJustified⟩ := hs.arena_justified hmem
  have hpredicted := hfirstJustified.eq_predicted ((congrArg ItemKey.dot hkey).trans hdot)
  simp only [Item.key, ItemKey.mk.injEq] at hkey
  rw [hkey.1, hkey.2.2, ← hjustified.eq_predicted hdot] at hpredicted
  rw [hpredicted] at hmem
  exact hnew hmem

variable (hitems : ∀ other, other ∈ items ↔
  (∃ slot alternative, insertion = .merged slot alternative ∧ slot ∈ s.taken) ∧
    r.Continues s.position s.nullable item other)
include hitems

omit ht in
/-- What an insertion adds to the agenda is what a late item is followed to. -/
theorem follows_of_mem_items (hother : other ∈ items) : item.dot ≠ 0 ∧ r.Follows s item other := by
  obtain ⟨⟨slot, alternative, rfl, htaken⟩, hcontinues⟩ := (hitems other).1 hother
  cases hinserts with
  | merged hslot hnew =>
    exact ⟨dot_ne_zero_of_not_mem hs hagenda hslot hnew, ⟨slot, htaken, hslot⟩, hcontinues⟩

theorem Anticipates.insert (h : r.Anticipates s) :
    r.Anticipates { s with chart, agenda := items ++ agenda } := by
  intro other hother hdot
  rcases List.mem_append.1 hother with hnew | hrest
  · obtain ⟨hmoved, hfollows⟩ := follows_of_mem_items hs hagenda hinserts hitems hnew
    have hitem := h item (hagenda ▸ List.mem_cons_self) hmoved
    have hnext : r.Anticipated s other := fun last next hpath hstep =>
      hitem last next (.head hfollows hpath) hstep
    exact hnext.insert hs ht hagenda hinserts
  · exact (h other (hagenda ▸ List.mem_cons_of_mem _ hrest) hdot).insert hs ht hagenda hinserts

omit ht in
/-- What an insertion adds to the agenda has slots already. -/
theorem Anticipates.holds_of_mem_items (h : r.Anticipates s) (hother : other ∈ items) :
    s.chart.Holds other := by
  obtain ⟨hmoved, hfollows⟩ := follows_of_mem_items hs hagenda hinserts hitems hother
  exact h item (hagenda ▸ List.mem_cons_self) hmoved item other .refl hfollows

end Insert

theorem anticipates_initial (r : Recognition T N H Tok) : r.Anticipates r.initial := by
  intro item hitem hdot
  obtain ⟨id, _, rfl⟩ := List.mem_map.1 hitem
  exact absurd rfl hdot

theorem Anticipates.transition (h : r.Anticipates s) (hinvariant : r.Invariant s)
    (htransition : r.Transition s (.running s')) : r.Anticipates s' := by
  cases htransition with
  | insert hagenda hinserts hitems =>
    exact h.insert hinvariant.sound hinvariant.tracked hagenda hinserts hitems
  | take hagenda hslot hfirst hitems hnullable =>
    intro item hitem hdot
    exact hinvariant.anticipated_of_arises hagenda hslot hfirst hnullable ((hitems item).1 hitem) hdot
  | advance =>
    intro item hitem
    cases hitem

/-- Nowhere in a recognition does following open slots. -/
theorem Reachable.anticipates (h : r.Reachable s) : r.Anticipates s := by
  induction h with
  | refl => exact anticipates_initial r
  | tail hreachable hleads ih =>
    have hinvariant := Reachable.invariant hreachable
    exact ih.transition hinvariant (hinvariant.transition hleads)

end Earley.Recognition
