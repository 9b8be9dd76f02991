import Earley.Proofs.Recognition.Filled

/-!
# Recognitions at rest

While the agenda is empty, whatever can be done with the slots taken up so far has been done. In
particular a closed column has everything that empty derivations can give. A nonterminal with an empty
derivation here has one at every closed column where it is expected, because an empty derivation reads
no tokens.
-/

namespace Earley

/-- The dot behind the next symbol. -/
def ItemKey.next (key : ItemKey) : ItemKey :=
  { key with dot := key.dot + 1 }

theorem ItemKey.next_inj {key other : ItemKey} (h : key.next = other.next) : key = other := by
  cases key
  cases other
  simpa [ItemKey.next] using h

@[simp] theorem Item.key_scan (item : Item) : item.scan.key = item.key.next := rfl

@[simp] theorem Item.stop_scan (item : Item) : item.scan.stop = item.stop + 1 := rfl

@[simp] theorem Item.key_advance (item : Item) (position : Nat) (child : ItemId) :
    (item.advance position child).key = item.key.next := rfl

namespace Recognition

variable {T N H Tok : Type} [DecidableEq N] {r : Recognition T N H Tok} {s : State N}
  {item : Item} {n : N}

theorem Pending.holds (hpending : r.Pending s item) (hagenda : s.agenda = []) :
    s.chart.Holds item :=
  (hpending.records hagenda).holds

variable [Terminal T Tok]

theorem Sound.le_of_tiles (hs : r.Sound s) {symbols : List (Symbol T N)} {i k : Nat}
    {slots : List ItemId} (htiles : s.chart.Tiles r.grammar r.tokens symbols i k slots) :
    i ≤ k := by
  induction htiles with
  | nil => exact Nat.le_refl _
  | terminal _ _ ih => omega
  | nonterminal hslot _ ih => exact Nat.le_trans (hs.le_of_finishedSlot hslot) ih

/-- A held item that finishes a rule has a finished slot. -/
theorem Sound.exists_finishedSlot_of_holds (hs : r.Sound s) (hholds : s.chart.Holds item)
    (hfinishes : item.Finishes r.grammar n) :
    ∃ slot, s.chart.FinishedSlot r.grammar n item.origin item.stop slot := by
  obtain ⟨other, hother, hkey, hstop⟩ := hholds
  obtain ⟨slot, first, _, hslot, hfirst, hfirstKey, _⟩ := hs.wellFormed.exists_slot hother
  have hsame := hfirstKey.trans hkey
  rw [hstop] at hslot
  exact ⟨slot, hslot, first, hfirst, congrArg ItemKey.origin hsame, hfinishes.of_key_eq hsame⟩

section AtRest

variable (h : r.Invariant s) (hagenda : s.agenda = [])
include h hagenda

omit hagenda in
/-- Items of closed columns are settled. -/
theorem Invariant.settled_of_stop_lt (hitem : item ∈ s.chart.arena)
    (hbefore : item.stop < s.position) : s.Settled item := by
  obtain ⟨slot, _, hslot, _⟩ := h.sound.wellFormed.exists_slot hitem
  exact ⟨slot, hslot, .inl hbefore⟩

/-- In closed columns the rules of the next nonterminal have been predicted. -/
theorem Invariant.holds_predicted (hholds : s.chart.Holds item) (hbefore : item.stop < s.position)
    (hexpects : item.Expects r.grammar (.nonterminal n)) {id : RuleId}
    (hid : id ∈ r.grammar.rulesFor n) : s.chart.Holds (.predicted id item.stop) := by
  obtain ⟨other, hother, hkey, hstop⟩ := hholds
  rw [← hstop] at hbefore ⊢
  have hsettled := h.settled_of_stop_lt hother hbefore
  exact (h.closed.predict hother hsettled (hexpects.of_key_eq hkey) hid).holds hagenda

/-- Items of closed columns have been moved over every finished slot taken up. -/
theorem Invariant.holds_advance (hholds : s.chart.Holds item) (hbefore : item.stop < s.position)
    (hexpects : item.Expects r.grammar (.nonterminal n)) {position : Nat} {slot : ItemId}
    (hslot : s.chart.FinishedSlot r.grammar n item.stop position slot)
    (htaken : s.HasTaken position slot) : s.chart.Holds (item.advance position slot) := by
  obtain ⟨other, hother, hkey, hstop⟩ := hholds
  rw [← hstop] at hbefore hslot
  have hsettled := h.settled_of_stop_lt hother hbefore
  obtain ⟨next, hnext, hnextKey, hnextStop⟩ :=
    (h.closed.complete hother hsettled (hexpects.of_key_eq hkey) hslot htaken).holds hagenda
  refine ⟨next, hnext, hnextKey.trans ?_, hnextStop⟩
  simp only [Item.key_advance, hkey]

/-- In a closed column an item is moved over symbols with empty derivations. -/
theorem Invariant.holds_of_empty_tiles {id : RuleId} {rule : Rule T N H}
    {symbols : List (Symbol T N)} {slots : List ItemId} {dot origin stop : Nat}
    (hrule : r.grammar.rules[id]? = some rule) (hdrop : rule.production.drop dot = symbols)
    (htiles : s.chart.Tiles r.grammar r.tokens symbols s.position s.position slots)
    (hbefore : stop < s.position)
    (hempty : ∀ slot ∈ slots, ∀ {n : N} {item : Item},
      s.chart.FinishedSlot r.grammar n s.position s.position slot → s.chart.Holds item →
      item.stop = stop → item.Expects r.grammar (.nonterminal n) →
      ∃ other, s.chart.FinishedSlot r.grammar n stop stop other)
    (hholds : s.chart.Holds ⟨id, dot, origin, stop, []⟩) :
    s.chart.Holds ⟨id, dot + symbols.length, origin, stop, []⟩ := by
  induction symbols generalizing slots dot with
  | nil => exact hholds
  | cons symbol symbols ih =>
    obtain ⟨hexpects, hrest⟩ := Item.expects_of_drop ⟨id, dot, origin, stop, []⟩ hrule hdrop
    cases htiles with
    | terminal _ htail =>
      have hle := h.sound.le_of_tiles htail
      omega
    | @nonterminal n _ _ j _ slot slots hslot htail =>
      obtain rfl : j = s.position :=
        Nat.le_antisymm (h.sound.le_of_tiles htail) (h.sound.le_of_finishedSlot hslot)
      obtain ⟨other, hother⟩ := hempty slot List.mem_cons_self hslot hholds rfl hexpects
      have hadvance := h.holds_advance hagenda hholds hbefore hexpects hother (.inl hbefore)
      have hlast := ih hrest htail (fun slot hmem => hempty slot (List.mem_cons_of_mem _ hmem))
        hadvance
      rw [List.length_cons, Nat.add_comm symbols.length, ← Nat.add_assoc]
      exact hlast

/-- A nonterminal with an empty derivation at the current position has one at every closed column where
    it is expected. -/
theorem Invariant.exists_empty_finishedSlot {slot : ItemId}
    (hslot : s.chart.FinishedSlot r.grammar n s.position s.position slot)
    (hholds : s.chart.Holds item) (hbefore : item.stop < s.position)
    (hexpects : item.Expects r.grammar (.nonterminal n)) :
    ∃ other, s.chart.FinishedSlot r.grammar n item.stop item.stop other := by
  induction slot using Nat.strongRecOn generalizing n item with
  | ind slot ih =>
    obtain ⟨hmem, first, hfirst, horigin, hfinishes⟩ := hslot
    obtain ⟨rule, hjustified⟩ := h.sound.arena_justified (Array.mem_of_getElem? hfirst)
    have htiles := hjustified.tiles_production hfinishes
    rw [horigin, h.sound.wellFormed.stop_of_mem_slotsAt hmem hfirst] at htiles
    obtain ⟨_, hrule, hhead, _⟩ := hfinishes
    rw [hjustified.rule_eq] at hrule
    cases hrule
    have hid : first.rule ∈ r.grammar.rulesFor n :=
      r.grammar.mem_rulesFor_iff.2 ⟨rule, hjustified.rule_eq, hhead⟩
    have hpredicted := h.holds_predicted hagenda hholds hbefore hexpects hid
    -- The backpointers of an empty derivation are empty derivations of smaller ids.
    have hfinished := h.holds_of_empty_tiles hagenda hjustified.rule_eq List.drop_zero htiles hbefore
      (fun child hchild {_ other} hchildSlot hother hstop hnext => by
        rw [← hstop] at hbefore ⊢
        exact ih child (h.sound.backpointers_lt hfirst child hchild) hchildSlot hother hbefore hnext)
      hpredicted
    rw [Nat.zero_add] at hfinished
    exact h.sound.exists_finishedSlot_of_holds hfinished
      ⟨rule, hjustified.rule_eq, hhead, Nat.le_refl _⟩

end AtRest

end Recognition

end Earley
