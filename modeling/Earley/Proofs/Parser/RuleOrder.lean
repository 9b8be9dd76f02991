import Earley.Proofs.Chart.Listing
import Earley.Proofs.Numbering
import Earley.Proofs.Parser.Results
import Earley.Proofs.Recognition.Counterparts

/-!
# The order of the rules

The order in which a grammar lists its rules decides in which order slots are opened, which derivation of a
slot comes first, and in which order trees are returned. It does not decide which slots there are, nor how
many alternatives and trees.
-/

namespace Earley

variable {T N H Tok : Type} [DecidableEq N]

/-- The other grammar has the same start symbol, and the same rules in another order. -/
structure Grammar.ReordersTo (g g' : Grammar T N H) (renumber : Equiv.Perm RuleId) : Prop where
  start_eq : g'.start = g.start
  rule_eq : ∀ id, g'.rules[renumber id]? = g.rules[id]?

/-- Grammars with the same rules in any order are renumbered to each other. -/
theorem Grammar.exists_reordersTo {g g' : Grammar T N H} (hstart : g'.start = g.start)
    (hrules : g.rules.toList.Perm g'.rules.toList) :
    ∃ renumber : Equiv.Perm RuleId, g.ReordersTo g' renumber := by
  obtain ⟨renumber, hrenumber⟩ := exists_perm_getElem? hrules
  refine ⟨renumber, hstart, fun id => ?_⟩
  rw [← Array.getElem?_toList, ← Array.getElem?_toList]
  exact hrenumber id

namespace Grammar.ReordersTo

variable {g g' : Grammar T N H} {renumber : Equiv.Perm RuleId} (h : g.ReordersTo g' renumber)
include h

theorem symm : g'.ReordersTo g renumber.symm where
  start_eq := h.start_eq.symm
  rule_eq id := by rw [← h.rule_eq, Equiv.apply_symm_apply]

theorem embedsIn (tokens : Array Tok) (policy : AmbiguityPolicy) :
    Recognition.EmbedsIn ⟨g, tokens, policy⟩ ⟨g', tokens, policy⟩ renumber :=
  ⟨⟨h.start_eq, renumber.injective, h.rule_eq⟩, rfl, rfl⟩

/-- A column has the same keys under the new numbers, perhaps in another order. -/
theorem keysAt_perm [Terminal T Tok] {tokens : Array Tok} {policy : AmbiguityPolicy}
    {chart chart' : Chart} (hfilled : Recognition.Filled ⟨g, tokens, policy⟩ chart)
    (hfilled' : Recognition.Filled ⟨g', tokens, policy⟩ chart') (position : Nat) :
    (chart'.keysAt position).Perm ((chart.keysAt position).map (ItemKey.renumber renumber)) := by
  have hnodup := (hfilled.wellFormed.nodup_keysAt position).map
    (ItemKey.renumber_injective renumber.injective)
  rw [List.perm_ext_iff_of_nodup (hfilled'.wellFormed.nodup_keysAt position) hnodup]
  intro key
  rw [List.mem_map]
  constructor
  · intro hkey
    refine ⟨_, (h.symm.embedsIn tokens policy).renumber_mem_keysAt hfilled' hfilled hkey, ?_⟩
    simp only [ItemKey.renumber, Equiv.apply_symm_apply]
  · rintro ⟨old, hold, rfl⟩
    exact (h.embedsIn tokens policy).renumber_mem_keysAt hfilled hfilled' hold

end Grammar.ReordersTo

namespace Parser

variable [Terminal T Tok]

/-- Under another order of the rules, the chart of an input has the same size and in each column the same
    keys, under the new numbers and perhaps in another order, and the parse has as many trees. -/
theorem rule_order_keeps_counts (g g' : Grammar T N H) (renumber : Equiv.Perm RuleId)
    (options : ParserOptions) (tokens : Array Tok) (hreorders : g.ReordersTo g' renumber) :
    ∃ chart chart' trees trees', (Parser.mk g options).recognize tokens = .ok chart ∧
      (Parser.mk g' options).recognize tokens = .ok chart' ∧
      chart'.stats = chart.stats ∧
      (∀ position, (chart'.keysAt position).Perm
        ((chart.keysAt position).map (ItemKey.renumber renumber))) ∧
      (Parser.mk g options).parse tokens = .ok trees ∧
      (Parser.mk g' options).parse tokens = .ok trees' ∧
      trees'.length = trees.length := by
  obtain ⟨chart, trees, h⟩ := exists_results ⟨g, options⟩ tokens
  obtain ⟨chart', trees', h'⟩ := exists_results ⟨g', options⟩ tokens
  have hembeds := hreorders.embedsIn tokens options.ambiguity
  have hembeds' := hreorders.symm.embedsIn tokens options.ambiguity
  have hplain := Recognition.plain_of_chart_eq_ok h.recognize_eq
  have hplain' := Recognition.plain_of_chart_eq_ok h'.recognize_eq
  have hwf := h.filled.wellFormed
  have hwf' := h'.filled.wellFormed
  have hcolumns : chart'.columns.size = chart.columns.size :=
    h'.filled.size_columns.trans h.filled.size_columns.symm
  have hkeys := hreorders.keysAt_perm h.filled h'.filled
  have hslots : ∀ position,
      (chart'.slotsAt position).length = (chart.slotsAt position).length := by
    intro position
    rw [← hwf.length_keysAt, ← hwf'.length_keysAt, (hkeys position).length_eq, List.length_map]
  have hitems : chart'.arena.size = chart.arena.size :=
    Nat.le_antisymm (hembeds'.size_arena_le h'.filled h.filled hplain')
      (hembeds.size_arena_le h.filled h'.filled hplain)
  have haccepting : (chart'.acceptingIds g').length = (chart.acceptingIds g).length :=
    Nat.le_antisymm (hembeds'.length_acceptingIds_le h'.filled h.filled hplain')
      (hembeds.length_acceptingIds_le h.filled h'.filled hplain)
  refine ⟨chart, chart', trees, trees', h.recognize_eq, h'.recognize_eq,
    hwf.stats_eq hwf' hcolumns hslots hitems, hkeys, h.parse_eq, h'.parse_eq, ?_⟩
  rw [← h.shows.length_eq, ← h'.shows.length_eq, haccepting]

/-- The grammar of `E → E '+' E` and `E → 'x'`. -/
def sums : Grammar Char Char Unit :=
  ⟨#[⟨'E', [.nonterminal 'E', .terminal '+', .nonterminal 'E'], none, none⟩,
    ⟨'E', [.terminal 'x'], none, none⟩], 'E', [('E', [0, 1])], by decide, by decide⟩

/-- The same grammar with its rules in the opposite order. -/
def reversedSums : Grammar Char Char Unit :=
  ⟨#[⟨'E', [.terminal 'x'], none, none⟩,
    ⟨'E', [.nonterminal 'E', .terminal '+', .nonterminal 'E'], none, none⟩], 'E', [('E', [0, 1])],
    by decide, by decide⟩

theorem sums_reordersTo_reversedSums : sums.ReordersTo reversedSums (Equiv.swap 0 1) where
  start_eq := rfl
  rule_eq id := by
    match id with
    | 0 => rfl
    | 1 => rfl
    | id + 2 =>
      have hfixed : Equiv.swap 0 1 (id + 2) = id + 2 :=
        Equiv.swap_apply_of_ne_of_ne (Nat.succ_ne_zero _) (Nat.succ_succ_ne_one id)
      rw [hfixed]
      rfl

/-- An ambiguous sum has as many trees in either order of the rules. -/
theorem rule_order_keeps_counts_sums :
    sums.ReordersTo reversedSums (Equiv.swap 0 1) ∧
      ∃ chart chart' trees trees',
        (Parser.mk sums {}).recognize #['x', '+', 'x', '+', 'x'] = .ok chart ∧
        (Parser.mk reversedSums {}).recognize #['x', '+', 'x', '+', 'x'] = .ok chart' ∧
        chart'.stats = chart.stats ∧
        (∀ position, (chart'.keysAt position).Perm
          ((chart.keysAt position).map (ItemKey.renumber (Equiv.swap 0 1)))) ∧
        (Parser.mk sums {}).parse #['x', '+', 'x', '+', 'x'] = .ok trees ∧
        (Parser.mk reversedSums {}).parse #['x', '+', 'x', '+', 'x'] = .ok trees' ∧
        trees'.length = trees.length :=
  ⟨sums_reordersTo_reversedSums, rule_order_keeps_counts sums reversedSums (Equiv.swap 0 1) {}
    #['x', '+', 'x', '+', 'x'] sums_reordersTo_reversedSums⟩

end Parser

end Earley
