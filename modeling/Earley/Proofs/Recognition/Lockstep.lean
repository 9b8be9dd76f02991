import Earley.Proofs.Grammar.Embedding
import Earley.Proofs.Grammar.Reachability
import Earley.Proofs.Recognition.Progress

/-!
# Recognitions in lockstep

Two recognitions whose rules of reachable nonterminals agree but for their numbers do the same, step by
step, as long as they have the same tokens before them. Only rules of reachable nonterminals enter a chart,
so what else the grammars hold makes no difference.
-/

namespace Earley.Recognition

variable {T N H Tok : Type} [DecidableEq N]

/-- The two recognitions have the same rules of reachable nonterminals, in the same order but under other
    numbers, and the same tokens up to the limit. -/
structure Parallel (r r' : Recognition T N H Tok) (renumber : RuleId → RuleId) (limit : Nat) :
    Prop extends r.grammar.EmbedsIn r'.grammar renumber where
  policy_eq : r'.policy = r.policy
  rulesFor_eq : ∀ n, r.grammar.Reaches n →
    r'.grammar.rulesFor n = (r.grammar.rulesFor n).map renumber
  token_eq : ∀ position < limit, r'.tokens[position]? = r.tokens[position]?

/-- The two states are the same but for the numbers of the rules and for columns behind the limit. -/
structure State.RenumbersTo (s s' : State N) (renumber : RuleId → RuleId) (limit : Nat) : Prop where
  chart : s.chart.RenumbersTo s'.chart renumber limit
  position_eq : s'.position = s.position
  cursor_eq : s'.cursor = s.cursor
  nullable_eq : s'.nullable = s.nullable
  agenda_eq : s'.agenda = s.agenda.map (Item.renumber renumber)

omit [DecidableEq N] in
theorem State.RenumbersTo.taken_eq {s s' : State N} {renumber : RuleId → RuleId} {limit : Nat}
    (h : s.RenumbersTo s' renumber limit) (hlimit : s.position ≤ limit) : s'.taken = s.taken := by
  rw [State.taken, State.taken, h.position_eq, h.cursor_eq, h.chart.slots s.position hlimit]

omit [DecidableEq N] in
theorem State.RenumbersTo.atEnd {s s' : State N} {renumber : RuleId → RuleId} {limit : Nat}
    (h : s.RenumbersTo s' renumber limit) (hlimit : s.position ≤ limit) (hend : s.AtEnd) :
    s'.AtEnd where
  agenda_eq := by rw [h.agenda_eq, hend.agenda_eq, List.map_nil]
  length_le := by
    rw [h.position_eq, h.cursor_eq, h.chart.slots _ hlimit]
    exact hend.length_le

/-- The rules of the items in a chart belong to reachable nonterminals. -/
theorem Rooted.reaches {r : Recognition T N H Tok} {s : State N} (h : r.Rooted s) {id : ItemId}
    {item : Item} {rule : Rule T N H} (hitem : s.chart.arena[id]? = some item)
    (hrule : r.grammar.rules[item.rule]? = some rule) : r.grammar.Reaches rule.head := by
  induction id using Nat.strongRecOn generalizing item rule with
  | ind id ih =>
    cases h.arena hitem with
    | start hid =>
      obtain ⟨found, hfound, hhead⟩ := r.grammar.mem_rulesFor_iff.1 hid
      rw [Item.predicted, hfound] at hrule
      cases hrule
      exact hhead ▸ .start
    | predict hlt hparent hexpects hid =>
      obtain ⟨found, hfound, rfl⟩ := r.grammar.mem_rulesFor_iff.1 hid
      rw [Item.predicted, hfound] at hrule
      cases hrule
      obtain ⟨parentRule, hparentRule, hsymbol⟩ := hexpects
      exact (ih _ hlt hparent hparentRule).expected hparentRule hsymbol
    | scan hlt hparent => exact ih _ hlt hparent hrule
    | advance hlt hparent => exact ih _ hlt hparent hrule

namespace Parallel

variable {r r' : Recognition T N H Tok} {renumber : RuleId → RuleId} {limit : Nat}
  (hp : r.Parallel r' renumber limit)
include hp

theorem admitsAt_eq [Terminal T Tok] {position : Nat} (hposition : position < limit) (t : T) :
    r'.admitsAt position t = r.admitsAt position t := by
  simp only [admitsAt, hp.token_eq position hposition]

omit hp in
theorem stepOver_renumber (position : Nat) (nullable : List (N × ItemId)) (head : N) (item : Item) :
    stepOver position nullable head (item.renumber renumber) =
      (stepOver position nullable head item).map (Item.renumber renumber) := by
  simp only [stepOver, List.map_map]
  rfl

theorem continuations_renumber [Terminal T Tok] {position : Nat} (hposition : position < limit)
    (nullable : List (N × ItemId)) (item : Item) :
    r'.continuations position nullable (item.renumber renumber) =
      (r.continuations position nullable item).map (Item.renumber renumber) := by
  have hrule : r'.grammar.rules[(item.renumber renumber).rule]? = r.grammar.rules[item.rule]? :=
    hp.rule_eq item.rule
  have hdot : (item.renumber renumber).dot = item.dot := rfl
  unfold continuations
  rw [hrule, hdot]
  rcases (r.grammar.rules[item.rule]?).bind (·.symbol? item.dot) with _ | ⟨t | n⟩
  · rfl
  · simp only [hp.admitsAt_eq hposition]
    split_ifs <;> rfl
  · exact stepOver_renumber position nullable n item

section Yield

variable {chart other : Chart} (h : chart.RenumbersTo other renumber limit) {position : Nat}
  (hposition : position ≤ limit)
include h hposition

omit hp in
theorem itemsOf_renumber (slot : ItemId) :
    other.itemsOf position slot = (chart.itemsOf position slot).map (Item.renumber renumber) := by
  simp only [Chart.itemsOf, h.alternatives position hposition, List.map_filterMap, h.getElem?_arena]

omit hposition in
theorem waitsFor_renumber (head : N) (id : ItemId) :
    other.waitsFor r'.grammar head id = chart.waitsFor r.grammar head id := by
  simp only [Chart.waitsFor, h.getElem?_arena]
  cases chart.arena[id]? with
  | none => rfl
  | some item =>
    simp only [Option.map_some, Item.renumber, hp.rule_eq]

theorem parents_renumber (head : N) :
    other.parents r'.grammar position head =
      (chart.parents r.grammar position head).map (Item.renumber renumber) := by
  have hwaits : other.waitsFor r'.grammar head = chart.waitsFor r.grammar head :=
    funext (hp.waitsFor_renumber h head)
  have hitems : other.itemsOf position =
      fun slot => (chart.itemsOf position slot).map (Item.renumber renumber) :=
    funext (itemsOf_renumber h hposition)
  simp only [Chart.parents, hwaits, hitems, h.slots position hposition, List.map_flatMap]

end Yield

theorem initial : r.initial.RenumbersTo r'.initial renumber limit where
  chart := by
    constructor
    · simp [Recognition.initial, Chart.empty]
    · simp [Recognition.initial]
    · simp [Recognition.initial]
  position_eq := rfl
  cursor_eq := rfl
  nullable_eq := rfl
  agenda_eq := by
    simp only [Recognition.initial, Grammar.startRules, hp.start_eq, hp.rulesFor_eq _ .start,
      List.map_map]
    rfl

variable [Terminal T Tok] {s s' next : State N} (hs : r.Reachable s) (hs' : r'.Reachable s')
  (h : s.RenumbersTo s' renumber limit) (hlimit : s.position < limit)
include hs hs' h hlimit

/-- Corresponding items enter both charts. -/
theorem insert {item : Item} {agenda : List Item} (hagenda : s.agenda = item :: agenda)
    (hleads : r.Leads s next) :
    ∃ next', r'.Leads s' next' ∧ next.RenumbersTo next' renumber limit := by
  have hi := hs.invariant
  have hi' := hs'.invariant
  have hagenda' : s'.agenda = item.renumber renumber :: agenda.map (Item.renumber renumber) := by
    rw [h.agenda_eq, hagenda, List.map_cons]
  have hmem : item ∈ s.agenda := hagenda ▸ List.mem_cons_self
  have hstop := hi.sound.agenda_stop_lt hmem
  have hstop' := hi'.sound.agenda_stop_lt (hagenda' ▸ List.mem_cons_self)
  have hle : item.stop ≤ limit := by
    rcases hi.sound.agenda_stop hmem with hend | ⟨hend, _⟩ <;> omega
  obtain ⟨insertion, chart, _, hinserts⟩ := hi.sound.wellFormed.add_inserts hstop r.policy
  obtain ⟨chart', hinserts', hchart⟩ := h.chart.insert hp.injective hi.sound.wellFormed
    hi'.sound.wellFormed hle hstop hstop' hinserts
  rw [← hp.policy_eq] at hinserts'
  obtain rfl := hleads.next_eq (step_of_inserts hi.sound hi.tracked hagenda hinserts)
  refine ⟨_, step_of_inserts hi'.sound hi'.tracked hagenda' hinserts', ?_⟩
  refine ⟨hchart, h.position_eq, h.cursor_eq, h.nullable_eq, ?_⟩
  have hlate : r'.lateItems s' (item.renumber renumber) insertion =
      (r.lateItems s item insertion).map (Item.renumber renumber) := by
    cases insertion with
    | merged slot alternative =>
      simp only [lateItems, h.taken_eq (Nat.le_of_lt hlimit), h.position_eq, h.nullable_eq,
        hp.continuations_renumber hlimit]
      split_ifs <;> rfl
    | added => rfl
    | duplicate => rfl
    | dropped => rfl
  rw [hlate, List.map_append]

/-- A slot yields corresponding items in both recognitions. -/
theorem exists_yields {slot : ItemId} (hslot : slot ∈ s.chart.slotsAt s.position) :
    ∃ items nullable, r.yield s.chart s.position s.nullable slot = .ok (items, nullable) ∧
      r'.yield s'.chart s.position s.nullable slot =
        .ok (items.map (Item.renumber renumber), nullable) := by
  have hi := hs.invariant
  have hwf := hi.sound.wellFormed
  have hwf' := hs'.invariant.sound.wellFormed
  have hle := Nat.le_of_lt hlimit
  obtain ⟨first, hfirst, _⟩ := hwf.slot_item hslot
  have hfirst' := h.chart.getElem?_arena_of_eq_some hfirst
  have hslot' : slot ∈ s'.chart.slotsAt s.position := by
    rw [h.chart.slots s.position hle]
    exact hslot
  have hitems := itemsOf_renumber h.chart hle slot
  have hmem := Array.mem_of_getElem? hfirst
  have horigin := hi.sound.origin_lt hmem
  obtain ⟨rule, hjustified⟩ := hi.sound.arena_justified hmem
  rcases Item.expects_or_finishes hjustified.rule_eq with ⟨t | n, hexpects⟩ | hfinishes
  · have hexpects' := hp.expects_iff.2 hexpects
    refine ⟨_, _, r.yield_of_expects_terminal hwf hslot hfirst hexpects, ?_⟩
    rw [r'.yield_of_expects_terminal hwf' hslot' hfirst' hexpects', hp.admitsAt_eq hlimit, hitems]
    split_ifs
    · rw [List.map_map, List.map_map]
      rfl
    · rfl
  · have hexpects' := hp.expects_iff.2 hexpects
    refine ⟨_, _, r.yield_of_expects_nonterminal hwf hslot hfirst hexpects, ?_⟩
    obtain ⟨found, hfound, hsymbol⟩ := hexpects
    have hreaches := (hi.rooted.reaches hfirst hfound).expected hfound hsymbol
    rw [r'.yield_of_expects_nonterminal hwf' hslot' hfirst' hexpects', hitems,
      hp.rulesFor_eq n hreaches, List.map_append, List.map_map, List.map_map, List.flatMap_map,
      List.map_flatMap]
    simp only [stepOver_renumber]
    rfl
  · have hfinishes' := hp.finishes_iff.2 hfinishes
    have hend : first.origin ≤ limit := by
      have hstop := hwf.stop_of_mem_slotsAt hslot hfirst
      exact Nat.le_trans hjustified.origin_le (hstop ▸ hle)
    refine ⟨_, _, r.yield_of_finishes hwf hfirst hi.sound.ruled horigin hfinishes, ?_⟩
    rw [r'.yield_of_finishes hwf' hfirst' hs'.invariant.sound.ruled
      (hs'.invariant.sound.origin_lt (Array.mem_of_getElem? hfirst')) hfinishes',
      Item.origin_renumber, hp.parents_renumber h.chart hend, List.map_map, List.map_map]
    rfl

/-- Both recognitions take up the same slot. -/
theorem take (hagenda : s.agenda = []) {slot : ItemId}
    (hslot : (s.chart.slotsAt s.position)[s.cursor]? = some slot) (hleads : r.Leads s next) :
    ∃ next', r'.Leads s' next' ∧ next.RenumbersTo next' renumber limit := by
  obtain ⟨items, nullable, hyield, hyield'⟩ :=
    hp.exists_yields hs hs' h hlimit (List.mem_of_getElem? hslot)
  have hagenda' : s'.agenda = [] := by rw [h.agenda_eq, hagenda, List.map_nil]
  have hslot' : (s'.chart.slotsAt s'.position)[s'.cursor]? = some slot := by
    rw [h.position_eq, h.cursor_eq, h.chart.slots _ (Nat.le_of_lt hlimit)]
    exact hslot
  obtain rfl := hleads.next_eq (step_of_slot hs.invariant.sound hagenda hslot hyield)
  rw [← h.position_eq, ← h.nullable_eq] at hyield'
  refine ⟨_, step_of_slot hs'.invariant.sound hagenda' hslot' hyield', ?_⟩
  exact ⟨h.chart, h.position_eq, congrArg Nat.succ h.cursor_eq, rfl, rfl⟩

omit hs in
theorem step_of_end (hend : s.AtEnd) :
    r'.step s' = .ok (if s.position < r.tokens.size
      then .running ⟨s'.chart, s.position + 1, 0, none, [], []⟩ else .closed s'.chart) := by
  have hend' := h.atEnd (Nat.le_of_lt hlimit) hend
  have htoken : s.position < r'.tokens.size ↔ s.position < r.tokens.size := by
    rw [← not_iff_not, Nat.not_lt, Nat.not_lt, ← Array.getElem?_eq_none_iff,
      hp.token_eq s.position hlimit, Array.getElem?_eq_none_iff]
  rw [Recognition.step_of_end hs'.invariant.sound hend'.agenda_eq hend'.length_le, h.position_eq]
  simp only [htoken]

/-- Each step of the one recognition is a step of the other. -/
theorem leads (hleads : r.Leads s next) :
    ∃ next', r'.Leads s' next' ∧ next.RenumbersTo next' renumber limit := by
  cases hagenda : s.agenda with
  | cons => exact hp.insert hs hs' h hlimit hagenda hleads
  | nil =>
    cases hslot : (s.chart.slotsAt s.position)[s.cursor]? with
    | some => exact hp.take hs hs' h hlimit hagenda hslot hleads
    | none =>
      have hcursor := List.getElem?_eq_none_iff.1 hslot
      obtain ⟨hposition, rfl⟩ := hleads.next_of_end hs.invariant.sound hagenda hcursor
      have hstep' := hp.step_of_end hs' h hlimit ⟨hagenda, hcursor⟩
      rw [if_pos hposition] at hstep'
      exact ⟨_, hstep', h.chart, rfl, rfl, rfl, rfl⟩

/-- Both recognitions end together. -/
theorem close {chart : Chart} (hclosed : r.step s = .ok (.closed chart)) :
    ∃ chart', r'.step s' = .ok (.closed chart') ∧ chart.RenumbersTo chart' renumber limit := by
  cases hs.invariant.transition hclosed with
  | close hagenda hcursor hposition =>
    have hstep' := hp.step_of_end hs' h hlimit ⟨hagenda, hcursor⟩
    rw [if_neg (Nat.not_lt.2 hposition)] at hstep'
    exact ⟨_, hstep', h.chart⟩

omit hs' h in
/-- Up to the limit every state of the one recognition has its counterpart in the other. -/
theorem exists_reachable : ∃ s', r'.Reachable s' ∧ s.RenumbersTo s' renumber limit := by
  induction hs with
  | refl => exact ⟨r'.initial, .refl, hp.initial⟩
  | tail hs hleads ih =>
    have hbefore := Nat.lt_of_le_of_lt (Leads.position_le hs hleads) hlimit
    obtain ⟨s', hs', h⟩ := ih hbefore
    obtain ⟨next', hleads', hnext⟩ := hp.leads hs hs' h hbefore hleads
    exact ⟨next', .tail hs' hleads', hnext⟩

end Parallel

/-- Recognitions that have all their tokens in common end with the same chart but for the numbers of the
    rules. -/
theorem Parallel.exists_chart [Terminal T Tok] {r r' : Recognition T N H Tok}
    {renumber : RuleId → RuleId} (hp : r.Parallel r' renumber (r.tokens.size + 1)) :
    ∃ chart chart', r.chart = .ok chart ∧ r'.chart = .ok chart' ∧
      chart.RenumbersTo chart' renumber (r.tokens.size + 1) := by
  obtain ⟨chart, last, hchart, hlast, hclosed⟩ := r.exists_reachable_closed
  have hlimit : last.position < r.tokens.size + 1 :=
    Nat.lt_succ_of_le hlast.invariant.sound.position_le
  obtain ⟨last', hlast', h⟩ := hp.exists_reachable hlast hlimit
  obtain ⟨chart', hclosed', hrenumbers⟩ := hp.close hlast hlast' h hlimit hclosed
  exact ⟨chart, chart', hchart, hlast'.chart_eq hclosed', hrenumbers⟩

end Earley.Recognition
