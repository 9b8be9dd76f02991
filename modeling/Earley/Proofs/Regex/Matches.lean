import Earley.Proofs.Regex.Places

/-!
# What an expression matches

The matches of an expression in a text are pairs of places, told by recursion on the expression. The
places at which matches can end, found by moving sets of places through the expression, are just those.

Main statement: `Expr.matchesSomewhere_iff`.
-/

namespace Earley.Regex

variable {text : Array Char} {places : List Nat} {i j : Nat}

namespace Expr

/-- The expression matches what stands between two places of a text. A bound below the least number of
    rounds of a loop counts as that number. -/
def Matches (text : Array Char) : Expr → Nat → Nat → Prop
  | empty, i, j => i = j
  | literal chars, i, j => chars <+: text.toList.drop i ∧ j = i + chars.length
  | set chars, i, j => (∃ c, text[i]? = some c ∧ chars.contains c = true) ∧ j = i + 1
  | anchor condition, i, j => condition.holds text i = true ∧ i = j
  | seq a b, i, j => ∃ k, a.Matches text i k ∧ b.Matches text k j
  | choice a b, i, j => a.Matches text i j ∨ b.Matches text i j
  | group _ body, i, j => body.Matches text i j
  | loop body min max _, i, j =>
    ∃ count, min ≤ count ∧ (∀ most, max = some most → count ≤ Nat.max min most) ∧
      Moves (body.Matches text) count i j

end Expr

theorem contains_single_iff {c d : Char} : (CharSet.single c).contains d = true ↔ d = c := by
  rw [← Char.toNat_inj]
  simp only [CharSet.single, CharSet.range, CharSet.contains, Ranges.covers]
  split_ifs <;> simp <;> omega

section Consume

variable {chars : CharSet} (hplaces : Places text.size places)

theorem mem_consume_iff :
    j ∈ consume text chars places ↔
      ∃ i ∈ places, (∃ c, text[i]? = some c ∧ chars.contains c = true) ∧ j = i + 1 := by
  simp only [consume, List.mem_filterMap, Option.any_eq_true]
  refine exists_congr fun i => and_congr_right fun _ => ?_
  split_ifs with h
  · rw [and_iff_right h, Option.some.injEq, eq_comm]
  · simp [h]

include hplaces

theorem places_consume : Places text.size (consume text chars places) := by
  constructor
  · refine hplaces.descend.filterMap _ fun i i' hlt j hj j' hj' => ?_
    split_ifs at hj hj'
    simp only [Option.some.injEq] at hj hj'
    omega
  · intro j hj
    obtain ⟨i, _, ⟨c, hc, _⟩, rfl⟩ := mem_consume_iff.1 hj
    exact (Array.getElem?_eq_some_iff.1 hc).1

end Consume

namespace Expr

theorem matches_literal_cons_iff {c : Char} {chars : List Char} :
    (literal (c :: chars)).Matches text i j ↔
      text[i]? = some c ∧ (literal chars).Matches text (i + 1) j := by
  have hlength : i + (c :: chars).length = i + 1 + chars.length := by
    rw [List.length_cons]
    omega
  simp only [Matches, hlength, ← and_assoc]
  refine and_congr_left fun _ => ?_
  rw [← Array.getElem?_toList, ← List.tail_drop, ← List.head?_drop]
  cases text.toList.drop i with
  | nil => simp
  | cons d rest => simp [List.cons_prefix_cons, eq_comm]

theorem movesBy_consume (chars : CharSet) :
    MovesBy text.size (consume text chars) ((set chars).Matches text) :=
  ⟨places_consume, fun _ _ => mem_consume_iff⟩

theorem movesBy_ends_literal (chars : List Char) :
    MovesBy text.size ((literal chars).ends text) ((literal chars).Matches text) := by
  induction chars with
  | nil => exact ⟨id, fun _ _ => by simp [ends, Matches]⟩
  | cons c chars ih =>
    have hboth := (movesBy_consume (.single c)).comp ih
    refine ⟨hboth.places, fun hplaces j => (hboth.mem_iff hplaces).trans ?_⟩
    refine exists_congr fun i => and_congr_right fun _ => ?_
    rw [matches_literal_cons_iff]
    simp only [Matches, contains_single_iff]
    grind

/-- The places at which matches end are those that the matches tell. -/
theorem movesBy_ends (e : Expr) : MovesBy text.size (e.ends text) (e.Matches text) := by
  induction e with
  | empty => exact ⟨id, fun _ _ => by simp [ends, Matches]⟩
  | literal chars => exact movesBy_ends_literal chars
  | set chars => exact movesBy_consume chars
  | anchor condition =>
    refine ⟨fun hplaces => hplaces.sublist List.filter_sublist, fun _ _ => ?_⟩
    simp only [ends, Matches, List.mem_filter]
    grind
  | seq a b iha ihb => exact iha.comp ihb
  | choice a b iha ihb => exact iha.either ihb
  | group index? body ih => exact ih
  | loop body min max greedy ih =>
    cases max with
    | none =>
      have hloop := ih.unbounded min
      exact ⟨hloop.places, fun hplaces _ => (hloop.mem_iff hplaces).trans (by simp [Matches])⟩
    | some most =>
      have hmost : min + (most - min) = Nat.max min most := by
        rw [Nat.add_comm, Nat.sub_add_eq_max]
        exact Nat.max_comm most min
      have hloop := ih.bounded min (most - min)
      rw [hmost] at hloop
      exact ⟨hloop.places, fun hplaces _ => (hloop.mem_iff hplaces).trans (by simp [Matches])⟩

/-- Matches do not go beyond the end of the text. -/
theorem Matches.le {e : Expr} (h : e.Matches text i j) (hi : i ≤ text.size) : j ≤ text.size :=
  e.movesBy_ends.le_of_moves (show Moves _ 1 i j from ⟨j, h, rfl⟩) hi

theorem places_all (size : Nat) : Places size (List.range (size + 1)).reverse := by
  constructor
  · rw [List.pairwise_reverse]
    exact List.pairwise_lt_range
  · intro p hp
    rw [List.mem_reverse, List.mem_range] at hp
    exact Nat.le_of_lt_succ hp

/-- An expression matches some part of a text. -/
theorem matchesSomewhere_iff (e : Expr) (text : Array Char) :
    e.matchesSomewhere text = true ↔ ∃ i j, i ≤ text.size ∧ e.Matches text i j := by
  have hmem (j : Nat) := e.movesBy_ends.mem_iff (places_all text.size) (j := j)
  simp only [matchesSomewhere, Bool.not_eq_true', List.isEmpty_eq_false_iff_exists_mem, hmem,
    List.mem_reverse, List.mem_range, Nat.lt_succ_iff]
  exact exists_comm

end Expr

end Earley.Regex
