import Mathlib.Data.List.Nodup
import Mathlib.Data.List.Perm.Subperm
import Mathlib.Tactic.Common
import Earley.Regex.Reach

/-!
# Sets of places

A set of places of a text is a descending list. A move that leads from each place of a set to the places
that a relation gives can be repeated: so often, at most so often, or until it leads to nothing new.
-/

namespace Earley.Regex

variable {α : Type} {size : Nat} {places others reached frontier : List Nat} {i j p : Nat}

/-- A set of places up to the last one of a text. -/
structure Places (size : Nat) (places : List Nat) : Prop where
  descend : places.Pairwise (· > ·)
  le : ∀ p ∈ places, p ≤ size

namespace Places

theorem nodup (h : Places size places) : places.Nodup :=
  h.descend.imp Nat.ne_of_gt

theorem sublist (h : Places size places) (hsublist : others.Sublist places) : Places size others :=
  ⟨h.descend.sublist hsublist, fun p hp => h.le p (hsublist.mem hp)⟩

/-- There are no more places than there are. -/
theorem mem_of_length (h : Places size places) (hlength : size + 1 ≤ places.length) (hp : p ≤ size) :
    p ∈ places := by
  have hsubset : places ⊆ List.range (size + 1) := fun q hq =>
    List.mem_range.2 (Nat.lt_succ_of_le (h.le q hq))
  have hperm := (List.subperm_of_subset h.nodup hsubset).perm_of_length_le (by simpa using hlength)
  exact hperm.mem_iff.2 (List.mem_range.2 (Nat.lt_succ_of_le hp))

end Places

theorem mem_union_iff : p ∈ union places others ↔ p ∈ places ∨ p ∈ others := by
  fun_induction union places others with
  | case1 => simp
  | case2 => simp
  | case3 => grind
  | case4 => grind
  | case5 => grind

theorem Places.union (h : Places size places) (h' : Places size others) :
    Places size (Regex.union places others) := by
  refine ⟨?_, fun p hp => (mem_union_iff.1 hp).elim (h.le p) (h'.le p)⟩
  have hplaces := h.descend
  have hothers := h'.descend
  clear h h'
  fun_induction Regex.union places others with
  | case1 => exact hothers
  | case2 => exact hplaces
  | case3 => grind [List.pairwise_cons, mem_union_iff]
  | case4 => grind [List.pairwise_cons, mem_union_iff]
  | case5 => grind [List.pairwise_cons, mem_union_iff]

theorem without_sublist : (without places others).Sublist places := by
  fun_induction without places others with
  | case1 => exact .refl _
  | case2 => exact .refl _
  | case3 _ _ _ ih => exact ih.cons _
  | case4 _ _ _ _ _ _ ih => exact ih.cons_cons _
  | case5 _ _ _ _ _ _ ih => exact ih

theorem mem_without_iff (h : places.Pairwise (· > ·)) (h' : others.Pairwise (· > ·)) :
    p ∈ without places others ↔ p ∈ places ∧ p ∉ others := by
  fun_induction without places others with
  | case1 => simp
  | case2 => simp
  | case3 => grind [List.pairwise_cons]
  | case4 => grind [List.pairwise_cons]
  | case5 => grind [List.pairwise_cons]

/-- From one place to another in so many moves. -/
def Moves (R : Nat → Nat → Prop) : Nat → Nat → Nat → Prop
  | 0, i, j => i = j
  | count + 1, i, j => ∃ k, R i k ∧ Moves R count k j

theorem moves_add_iff {R : Nat → Nat → Prop} {count more : Nat} :
    Moves R (count + more) i j ↔ ∃ k, Moves R count i k ∧ Moves R more k j := by
  induction count generalizing i with
  | zero => simp [Moves]
  | succ count ih =>
    rw [Nat.succ_add]
    simp only [Moves, ih]
    grind

theorem iterate_of_eq {move : List Nat → List Nat} (h : move places = places) (count : Nat) :
    iterate move count places = places := by
  cases count with
  | zero => rfl
  | succ count => rw [iterate, if_pos h]

/-- A move of sets leads from each place to those that the relation gives. -/
structure MovesBy (size : Nat) (move : List Nat → List Nat) (R : Nat → Nat → Prop) : Prop where
  places : ∀ {places : List Nat}, Places size places → Places size (move places)
  mem_iff : ∀ {places : List Nat}, Places size places → ∀ {j : Nat},
    j ∈ move places ↔ ∃ i ∈ places, R i j

/-- A set with a frontier from which spreading goes on. The relation leads out of the set from the
    frontier only. -/
structure Spreading (R : Nat → Nat → Prop) (frontier reached : List Nat) : Prop where
  subset : ∀ i ∈ frontier, i ∈ reached
  closed : ∀ i ∈ reached, i ∉ frontier → ∀ j, R i j → j ∈ reached

theorem Spreading.start (R : Nat → Nat → Prop) (places : List Nat) : Spreading R places places :=
  ⟨fun _ => id, fun _ hi hnot => absurd hi hnot⟩

/-- Nothing leads out of a set without a frontier. -/
theorem Spreading.mem_of_moves {R : Nat → Nat → Prop} (h : Spreading R [] reached) {count : Nat}
    (hi : i ∈ reached) (hmoves : Moves R count i j) : j ∈ reached := by
  induction count generalizing i with
  | zero => exact hmoves ▸ hi
  | succ count ih =>
    obtain ⟨k, hk, hrest⟩ := hmoves
    exact ih (h.closed i hi List.not_mem_nil k hk) hrest

namespace MovesBy

variable {move : List Nat → List Nat} {R : Nat → Nat → Prop} (h : MovesBy size move R)
include h

/-- Places do not lie beyond the end of the text. -/
theorem le_of_moves {count : Nat} (hmoves : Moves R count i j) (hi : i ≤ size) : j ≤ size := by
  induction count generalizing i with
  | zero => exact hmoves ▸ hi
  | succ count ih =>
    obtain ⟨k, hk, hrest⟩ := hmoves
    have hplaces : Places size [i] := ⟨List.pairwise_singleton _ _, by simpa using hi⟩
    exact ih hrest ((h.places hplaces).le k ((h.mem_iff hplaces).2 ⟨i, List.mem_singleton_self i, hk⟩))

theorem places_iterate (count : Nat) (hplaces : Places size places) :
    Places size (iterate move count places) := by
  induction count generalizing places with
  | zero => exact hplaces
  | succ count ih =>
    rw [iterate]
    split_ifs
    · exact hplaces
    · exact ih (h.places hplaces)

/-- Iterating a move makes it so often, also where it stops because nothing changes any more. -/
theorem mem_iterate_iff (count : Nat) (hplaces : Places size places) :
    j ∈ iterate move count places ↔ ∃ i ∈ places, Moves R count i j := by
  induction count generalizing places with
  | zero => simp [iterate, Moves]
  | succ count ih =>
    have hnext : (∃ i ∈ places, Moves R (count + 1) i j) ↔ ∃ i ∈ move places, Moves R count i j := by
      simp only [Moves, h.mem_iff hplaces]
      grind
    rw [iterate, hnext]
    split_ifs with hsame
    · rw [hsame, ← ih hplaces, iterate_of_eq hsame]
    · exact ih (h.places hplaces)

section Spread

variable {rounds : Nat} (hfrontier : Places size frontier) (hreached : Places size reached)
include hfrontier

theorem places_new (reached : List Nat) :
    Places size (without (move frontier) reached) :=
  (h.places hfrontier).sublist without_sublist

include hreached

/-- What a round of spreading finds that is new. -/
theorem mem_new_iff :
    j ∈ without (move frontier) reached ↔ (∃ i ∈ frontier, R i j) ∧ j ∉ reached := by
  rw [mem_without_iff (h.places hfrontier).descend hreached.descend, h.mem_iff hfrontier]

theorem places_spread : Places size (spread move rounds frontier reached) := by
  induction rounds generalizing frontier reached with
  | zero => exact hreached
  | succ rounds ih =>
    have hnew := h.places_new hfrontier reached
    rw [spread]
    split
    · exact hreached
    · exact ih hnew (hreached.union hnew)

variable (hspreading : Spreading R frontier reached)
include hspreading

/-- One move from the set leads into what has been reached after a round. -/
theorem mem_union_of_mem (hi : i ∈ reached) (hij : R i j) :
    j ∈ union reached (without (move frontier) reached) := by
  rw [mem_union_iff, h.mem_new_iff hfrontier hreached]
  by_cases hj : j ∈ reached
  · exact .inl hj
  · by_cases hiFrontier : i ∈ frontier
    · exact .inr ⟨⟨i, hiFrontier, hij⟩, hj⟩
    · exact .inl (hspreading.closed i hi hiFrontier j hij)

/-- A round of spreading leaves what is new as the frontier. -/
theorem spreading_next :
    Spreading R (without (move frontier) reached)
      (union reached (without (move frontier) reached)) where
  subset _ hi := mem_union_iff.2 (.inr hi)
  closed _ hi hnot _ hij :=
    h.mem_union_of_mem hfrontier hreached hspreading ((mem_union_iff.1 hi).resolve_right hnot) hij

/-- Spreading is over when nothing is new. -/
theorem spreading_done (hnone : without (move frontier) reached = []) : Spreading R [] reached := by
  refine ⟨fun _ hi => absurd hi List.not_mem_nil, fun i hi _ j hij => ?_⟩
  have hnext := h.mem_union_of_mem hfrontier hreached hspreading hi hij
  rw [hnone, mem_union_iff] at hnext
  exact hnext.resolve_right List.not_mem_nil

/-- Spreading in so many rounds reaches what at most so many moves lead to. -/
theorem mem_spread_iff :
    j ∈ spread move rounds frontier reached ↔ ∃ i ∈ reached, ∃ count ≤ rounds, Moves R count i j := by
  induction rounds generalizing frontier reached with
  | zero => simp [spread, Moves]
  | succ rounds ih =>
    rw [spread]
    have hnew := h.places_new hfrontier reached
    have hnext := h.spreading_next hfrontier hreached hspreading
    split
    · rename_i hnone
      have hdone := h.spreading_done hfrontier hreached hspreading hnone
      refine ⟨fun hj => ⟨j, hj, 0, Nat.zero_le _, rfl⟩, ?_⟩
      rintro ⟨i, hi, count, _, hmoves⟩
      exact hdone.mem_of_moves hi hmoves
    · rw [ih hnew (hreached.union hnew) hnext]
      constructor
      · rintro ⟨i, hi, count, hcount, hmoves⟩
        rcases mem_union_iff.1 hi with hi | hi
        · exact ⟨i, hi, count, Nat.le_succ_of_le hcount, hmoves⟩
        · obtain ⟨⟨k, hk, hki⟩, _⟩ := (h.mem_new_iff hfrontier hreached).1 hi
          exact ⟨k, hspreading.subset k hk, count + 1, Nat.succ_le_succ hcount, i, hki, hmoves⟩
      · rintro ⟨i, hi, count, hcount, hmoves⟩
        cases count with
        | zero => exact ⟨i, mem_union_iff.2 (.inl hi), 0, Nat.zero_le _, hmoves⟩
        | succ count =>
          obtain ⟨k, hik, hmoves⟩ := hmoves
          exact ⟨k, h.mem_union_of_mem hfrontier hreached hspreading hi hik, count,
            Nat.le_of_succ_le_succ hcount, hmoves⟩

omit hspreading in
/-- A round that finds something new leaves more places behind it. -/
theorem length_lt_of_new (hp : p ∈ without (move frontier) reached) :
    reached.length < (union reached (without (move frontier) reached)).length := by
  have hnew := ((h.mem_new_iff hfrontier hreached).1 hp).2
  have hnodup : (p :: reached).Nodup := List.nodup_cons.2 ⟨hnew, hreached.nodup⟩
  refine hnodup.length_le_of_subset fun q hq => mem_union_iff.2 ?_
  rcases List.mem_cons.1 hq with rfl | hq
  · exact .inr hp
  · exact .inl hq

/-- With as many rounds as there are places left, spreading reaches what any number of moves leads
    to. -/
theorem mem_spread_of_moves {count : Nat} (hi : i ∈ reached) (hmoves : Moves R count i j)
    (hrounds : size + 1 ≤ rounds + reached.length) : j ∈ spread move rounds frontier reached := by
  induction rounds generalizing frontier reached with
  | zero =>
    exact hreached.mem_of_length (by omega) (h.le_of_moves hmoves (hreached.le i hi))
  | succ rounds ih =>
    rw [spread]
    have hnew := h.places_new hfrontier reached
    have hnext := h.spreading_next hfrontier hreached hspreading
    split
    · rename_i hnone
      exact (h.spreading_done hfrontier hreached hspreading hnone).mem_of_moves hi hmoves
    · rename_i hsome
      obtain ⟨p, hp⟩ := List.exists_mem_of_ne_nil _ hsome
      have hlength := h.length_lt_of_new hfrontier hreached hp
      exact ih hnew (hreached.union hnew) hnext (mem_union_iff.2 (.inl hi)) (by omega)

end Spread

omit h in
/-- One move after another. -/
theorem comp {move' : List Nat → List Nat} {R' : Nat → Nat → Prop} (h : MovesBy size move R)
    (h' : MovesBy size move' R') :
    MovesBy size (fun places => move' (move places)) fun i j => ∃ k, R i k ∧ R' k j := by
  refine ⟨fun hplaces => h'.places (h.places hplaces), fun hplaces _ => ?_⟩
  simp only [h'.mem_iff (h.places hplaces), h.mem_iff hplaces]
  grind

omit h in
/-- One move or another. -/
theorem either {move' : List Nat → List Nat} {R' : Nat → Nat → Prop} (h : MovesBy size move R)
    (h' : MovesBy size move' R') :
    MovesBy size (fun places => union (move places) (move' places)) fun i j => R i j ∨ R' i j := by
  refine ⟨fun hplaces => (h.places hplaces).union (h'.places hplaces), fun hplaces _ => ?_⟩
  simp only [mem_union_iff, h.mem_iff hplaces, h'.mem_iff hplaces]
  grind

/-- A move made at least so often, and after that at most so many times more. -/
theorem bounded (min rounds : Nat) :
    MovesBy size
      (fun places => spread move rounds (iterate move min places) (iterate move min places))
      fun i j => ∃ count, min ≤ count ∧ count ≤ min + rounds ∧ Moves R count i j := by
  refine ⟨fun hplaces => ?_, fun hplaces _ => ?_⟩
  · have hleast := h.places_iterate min hplaces
    exact h.places_spread hleast hleast
  · have hleast := h.places_iterate min hplaces
    rw [h.mem_spread_iff hleast hleast (.start R _)]
    constructor
    · rintro ⟨k, hk, more, hmore, hmoves⟩
      obtain ⟨i, hi, hleast⟩ := (h.mem_iterate_iff min hplaces).1 hk
      exact ⟨i, hi, min + more, Nat.le_add_right _ _, Nat.add_le_add_left hmore _,
        moves_add_iff.2 ⟨k, hleast, hmoves⟩⟩
    · rintro ⟨i, hi, count, hmin, hmax, hmoves⟩
      obtain ⟨more, rfl⟩ := Nat.exists_eq_add_of_le hmin
      obtain ⟨k, hleast, hmoves⟩ := moves_add_iff.1 hmoves
      exact ⟨k, (h.mem_iterate_iff min hplaces).2 ⟨i, hi, hleast⟩, more,
        Nat.le_of_add_le_add_left hmax, hmoves⟩

/-- A move made at least so often. Further rounds than there are places would find nothing new. -/
theorem unbounded (min : Nat) :
    MovesBy size
      (fun places => spread move (size + 1) (iterate move min places) (iterate move min places))
      fun i j => ∃ count, min ≤ count ∧ Moves R count i j := by
  refine ⟨(h.bounded min (size + 1)).places, fun {places} hplaces j => ?_⟩
  constructor
  · intro hj
    obtain ⟨i, hi, count, hmin, _, hmoves⟩ := ((h.bounded min (size + 1)).mem_iff hplaces).1 hj
    exact ⟨i, hi, count, hmin, hmoves⟩
  · rintro ⟨i, hi, count, hmin, hmoves⟩
    have hleast := h.places_iterate min hplaces
    obtain ⟨more, rfl⟩ := Nat.exists_eq_add_of_le hmin
    obtain ⟨k, hfirst, hmoves⟩ := moves_add_iff.1 hmoves
    exact h.mem_spread_of_moves hleast hleast (.start R _)
      ((h.mem_iterate_iff min hplaces).2 ⟨i, hi, hfirst⟩) hmoves (Nat.le_add_right _ _)

end MovesBy

end Earley.Regex
