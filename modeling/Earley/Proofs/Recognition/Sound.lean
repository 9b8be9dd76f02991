import Mathlib.Algebra.BigOperators.Ring.List
import Mathlib.Algebra.Ring.Nat
import Mathlib.Data.List.Perm.Subperm
import Earley.Proofs.Recognition.Yield

/-!
# Sound states

In a sound state the chart justifies every item, those in the arena and those on the agenda: what
stands left of the dot tiles the tokens from the origin to the item's position, and the rule has been
predicted at the origin.
-/

namespace Earley.Recognition

variable {T N H Tok : Type} [DecidableEq N] [Terminal T Tok]

/-- The chart justifies an item of this rule. -/
structure Justified (r : Recognition T N H Tok) (chart : Chart) (rule : Rule T N H)
    (item : Item) : Prop where
  rule_eq : r.grammar.rules[item.rule]? = some rule
  dot_le : item.dot ≤ rule.length
  origin_le : item.origin ≤ item.stop
  tiles : chart.Tiles r.grammar r.tokens (rule.production.take item.dot) item.origin item.stop
    item.backpointers
  predicted : item = .predicted item.rule item.origin ∨
    .predicted item.rule item.origin ∈ chart.arena

namespace Justified

variable {r : Recognition T N H Tok} {chart chart' : Chart} {rule : Rule T N H} {item : Item}

theorem mono (h : r.Justified chart rule item) (hextends : chart'.Extends chart) :
    r.Justified chart' rule item :=
  { h with
    tiles := h.tiles.mono hextends
    predicted := h.predicted.imp_right hextends.mem_arena }

/-- An item of the chart has been predicted. -/
theorem predicted_mem (h : r.Justified chart rule item) (hmem : item ∈ chart.arena) :
    .predicted item.rule item.origin ∈ chart.arena := by
  rcases h.predicted with heq | hpredicted
  · exact heq ▸ hmem
  · exact hpredicted

theorem eq_predicted (h : r.Justified chart rule item) (hdot : item.dot = 0) :
    item = .predicted item.rule item.origin := by
  have htiles := h.tiles
  rw [hdot, List.take_zero] at htiles
  obtain ⟨id, dot, origin, stop, backpointers⟩ := item
  cases htiles
  cases hdot
  rfl

theorem take_dot_succ (h : r.Justified chart rule item) {symbol : Symbol T N}
    (hexpects : item.Expects r.grammar symbol) :
    item.dot + 1 ≤ rule.length ∧
      rule.production.take (item.dot + 1) = rule.production.take item.dot ++ [symbol] := by
  obtain ⟨rule', hrule, hsymbol⟩ := hexpects
  rw [h.rule_eq] at hrule
  cases hrule
  refine ⟨(List.getElem?_eq_some_iff.1 hsymbol).1, ?_⟩
  have hget : rule.production[item.dot]? = some symbol := hsymbol
  rw [List.take_add_one, hget, Option.toList_some]

theorem of_predicted {id : RuleId} (hrule : r.grammar.rules[id]? = some rule) (position : Nat) :
    r.Justified chart rule (.predicted id position) where
  rule_eq := hrule
  dot_le := Nat.zero_le _
  origin_le := Nat.le_refl _
  tiles := .nil position
  predicted := .inl rfl

theorem scan (h : r.Justified chart rule item) (hmem : item ∈ chart.arena) {t : T}
    (hexpects : item.Expects r.grammar (.terminal t)) (hadmits : AdmitsAt r.tokens item.stop t) :
    r.Justified chart rule item.scan where
  rule_eq := h.rule_eq
  dot_le := (h.take_dot_succ hexpects).1
  origin_le := Nat.le_succ_of_le h.origin_le
  tiles := by
    have htoken : chart.Tiles r.grammar r.tokens [.terminal t] item.stop (item.stop + 1) [] :=
      .terminal hadmits (.nil _)
    have htiles := h.tiles.append htoken
    rw [List.append_nil, ← (h.take_dot_succ hexpects).2] at htiles
    exact htiles
  predicted := .inr (h.predicted_mem hmem)

theorem advance (h : r.Justified chart rule item) (hmem : item ∈ chart.arena) {n : N}
    {position : Nat} {slot : ItemId} (hexpects : item.Expects r.grammar (.nonterminal n))
    (hslot : chart.FinishedSlot r.grammar n item.stop position slot)
    (hposition : item.stop ≤ position) : r.Justified chart rule (item.advance position slot) where
  rule_eq := h.rule_eq
  dot_le := (h.take_dot_succ hexpects).1
  origin_le := Nat.le_trans h.origin_le hposition
  tiles := by
    have htiles := h.tiles.append (.nonterminal hslot (.nil position))
    rw [← (h.take_dot_succ hexpects).2] at htiles
    exact htiles
  predicted := .inr (h.predicted_mem hmem)

/-- The dot of a finished item stands at the end of the production. -/
theorem dot_eq_length (h : r.Justified chart rule item) {n : N}
    (hfinishes : item.Finishes r.grammar n) : item.dot = rule.length := by
  obtain ⟨rule', hrule, _, hdot⟩ := hfinishes
  rw [h.rule_eq] at hrule
  cases hrule
  exact Nat.le_antisymm h.dot_le hdot

/-- The whole production of a finished item tiles its stretch of the input. -/
theorem tiles_production (h : r.Justified chart rule item) {n : N}
    (hfinishes : item.Finishes r.grammar n) :
    chart.Tiles r.grammar r.tokens rule.production item.origin item.stop item.backpointers := by
  have htiles := h.tiles
  rwa [h.dot_eq_length hfinishes, Rule.length, List.take_length] at htiles

end Justified

/-- A state whose items are all justified. -/
structure Sound (r : Recognition T N H Tok) (s : State N) : Prop where
  wellFormed : s.chart.WellFormed
  size_columns : s.chart.columns.size = r.tokens.size + 1
  position_le : s.position ≤ r.tokens.size
  arena_justified : ∀ {item : Item}, item ∈ s.chart.arena → ∃ rule, r.Justified s.chart rule item
  backpointers_lt : ∀ {id : ItemId} {item : Item}, s.chart.arena[id]? = some item →
    ∀ c ∈ item.backpointers, c < id
  arena_stop_le : ∀ {item : Item}, item ∈ s.chart.arena → item.stop ≤ s.position + 1
  agenda_justified : ∀ {item : Item}, item ∈ s.agenda → ∃ rule, r.Justified s.chart rule item
  /-- An item on the agenda is about to enter this column or the next. -/
  agenda_stop : ∀ {item : Item}, item ∈ s.agenda →
    item.stop = s.position ∨ item.stop = s.position + 1 ∧ s.position < r.tokens.size

namespace Sound

variable {r : Recognition T N H Tok} {s : State N} (hs : r.Sound s)
include hs

theorem ruled : s.chart.Ruled r.grammar := by
  intro item hitem
  obtain ⟨rule, hrule⟩ := hs.arena_justified hitem
  exact ⟨rule, hrule.rule_eq⟩

theorem agenda_stop_lt {item : Item} (h : item ∈ s.agenda) :
    item.stop < s.chart.columns.size := by
  have hposition := hs.position_le
  rw [hs.size_columns]
  rcases hs.agenda_stop h with hstop | ⟨hstop, hlt⟩ <;> omega

theorem origin_lt {item : Item} (h : item ∈ s.chart.arena) :
    item.origin < s.chart.columns.size := by
  obtain ⟨id, hid⟩ := Array.mem_iff_getElem?.1 h
  obtain ⟨rule, hjustified⟩ := hs.arena_justified h
  exact Nat.lt_of_le_of_lt hjustified.origin_le (hs.wellFormed.stop_lt hid)

/-- Finished slots do not end before they begin. -/
theorem le_of_finishedSlot {n : N} {i j : Nat} {slot : ItemId}
    (hslot : s.chart.FinishedSlot r.grammar n i j slot) : i ≤ j := by
  obtain ⟨hmem, first, hfirst, rfl, _⟩ := hslot
  obtain ⟨rule, hjustified⟩ := hs.arena_justified (Array.mem_of_getElem? hfirst)
  rw [← hs.wellFormed.stop_of_mem_slotsAt hmem hfirst]
  exact hjustified.origin_le

end Sound

/-- The keys that items at a position can have. -/
def keysAt (r : Recognition T N H Tok) (position : Nat) : List ItemKey :=
  r.grammar.rules.toList.zipIdx.flatMap fun (rule, id) =>
    (List.range (rule.length + 1)).flatMap fun dot =>
      (List.range (position + 1)).map fun origin => ⟨id, dot, origin⟩

omit [Terminal T Tok] in
theorem length_keysAt (r : Recognition T N H Tok) (position : Nat) :
    (r.keysAt position).length = r.slotBound position := by
  have hrule (rule : Rule T N H) (id : RuleId) :
      ((List.range (rule.length + 1)).flatMap fun dot =>
        (List.range (position + 1)).map fun origin => (⟨id, dot, origin⟩ : ItemKey)).length =
        (position + 1) * (rule.length + 1) := by
    simp only [List.length_flatMap, List.length_map, List.length_range, List.map_const',
      List.sum_replicate_nat]
    exact Nat.mul_comm _ _
  have hlengths : ((r.grammar.rules.toList.zipIdx 0).map fun entry => entry.1.length + 1) =
      r.grammar.rules.toList.map (·.length + 1) := by
    conv_rhs => rw [← List.zipIdx_map_fst 0 r.grammar.rules.toList, List.map_map]
    rfl
  unfold keysAt slotBound Grammar.dottedRules
  rw [List.length_flatMap, ← List.sum_eq_foldl_nat, ← hlengths]
  simp only [hrule]
  exact List.sum_map_mul_left _ _ _

/-- There are no more slots in a column than dotted rules with an origin. -/
theorem length_slotsAt_le {r : Recognition T N H Tok} {chart : Chart} (hwf : chart.WellFormed)
    (hjustified : ∀ {item : Item}, item ∈ chart.arena → ∃ rule, r.Justified chart rule item)
    (position : Nat) : (chart.slotsAt position).length ≤ r.slotBound position := by
  have hnodup : (chart.slotsAt position).Nodup := (hwf.slots_ascend position).imp Nat.ne_of_lt
  have hsubset : chart.slotsAt position ⊆
      (r.keysAt position).filterMap (chart.slotOf? position) := by
    intro id hid
    obtain ⟨item, hitem, rfl, hkey⟩ := hwf.slot_item hid
    obtain ⟨rule, hjustified⟩ := hjustified (Array.mem_of_getElem? hitem)
    refine List.mem_filterMap.2 ⟨item.key, ?_, hkey⟩
    have hdot := Nat.lt_succ_of_le hjustified.dot_le
    have horigin := Nat.lt_succ_of_le hjustified.origin_le
    simp only [keysAt, List.mem_flatMap, List.mem_map, List.mem_range]
    refine ⟨(rule, item.rule), ?_, item.dot, hdot, item.origin, horigin, rfl⟩
    rw [List.mk_mem_zipIdx_iff_getElem?, Array.getElem?_toList]
    exact hjustified.rule_eq
  calc (chart.slotsAt position).length
      ≤ ((r.keysAt position).filterMap (chart.slotOf? position)).length :=
        (hnodup.subperm hsubset).length_le
    _ ≤ (r.keysAt position).length := List.length_filterMap_le _ _
    _ = r.slotBound position := r.length_keysAt position

end Earley.Recognition
