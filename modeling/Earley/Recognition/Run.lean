import Earley.Recognition.Step

/-!
# Running a recognition

Every step makes progress in one of three ways, each of which outweighs those after it: the position
moves on, the cursor moves on, or the items on the agenda lose weight. An item weighs the more the
more symbols stand after its dot, because it can be replaced only by items that have one symbol
less, at most one for each empty derivation.

Main statement: `Leads.progress`, every step descends in this order. So `finish` needs no bound on
its steps.
-/

namespace Earley.Recognition

variable {T N H Tok : Type} [DecidableEq N]

/-- The number of symbols after the dot. -/
def remaining (r : Recognition T N H Tok) (item : Item) : Nat :=
  match r.grammar.rules[item.rule]? with
  | some rule => rule.length - item.dot
  | none => 0

/-- The weight of an item while `base` empty derivations are known. -/
def weight (r : Recognition T N H Tok) (base : Nat) (item : Item) : Nat :=
  Nat.pow (base + 2) (r.remaining item)

/-- The weight of all items of a list. -/
def weightAll (r : Recognition T N H Tok) (base : Nat) (items : List Item) : Nat :=
  (items.map (r.weight base)).foldl (· + ·) 0

/-- An item whose dot has moved over a symbol has one symbol less in front of it. -/
theorem remaining_of_dot_succ (r : Recognition T N H Tok) {item item' : Item}
    {symbol : Symbol T N} (hnext : item.next? r.grammar = .ok (some symbol))
    (hrule : item'.rule = item.rule) (hdot : item'.dot = item.dot + 1) :
    r.remaining item = r.remaining item' + 1 := by
  obtain ⟨rule, hfound, hsymbol⟩ := Item.next?_eq_ok_iff.1 hnext
  have hlt : item.dot < rule.length := (List.getElem?_eq_some_iff.1 hsymbol).1
  unfold remaining
  rw [hrule, hdot, hfound]
  simp only
  omega

theorem weightAll_cons (r : Recognition T N H Tok) (base : Nat) (item : Item) (items : List Item) :
    r.weightAll base (item :: items) = r.weight base item + r.weightAll base items := by
  simp only [weightAll, ← List.sum_eq_foldl_nat, List.map_cons, List.sum_cons]

theorem weightAll_append (r : Recognition T N H Tok) (base : Nat) (items items' : List Item) :
    r.weightAll base (items ++ items') = r.weightAll base items + r.weightAll base items' := by
  simp only [weightAll, ← List.sum_eq_foldl_nat, List.map_append, List.sum_append_nat]

theorem weight_pos (r : Recognition T N H Tok) (base : Nat) (item : Item) :
    0 < r.weight base item :=
  Nat.pow_pos (by omega)

/-- The items that step over empty derivations weigh less than the item that they come from: each
    has lost one symbol, and there is at most one for each empty derivation. -/
theorem weight_stepOver (r : Recognition T N H Tok) {position : Nat}
    {nullable : List (N × ItemId)} {head : N} {item : Item}
    (hnext : item.next? r.grammar = .ok (some (.nonterminal head))) :
    r.weightAll nullable.length (stepOver position nullable head item)
      < r.weight nullable.length item := by
  let child := item.advance position 0
  have hless : r.remaining item = r.remaining child + 1 := r.remaining_of_dot_succ hnext rfl rfl
  have hsame : (stepOver position nullable head item).map (r.weight nullable.length) =
      List.replicate (stepOver position nullable head item).length
        (r.weight nullable.length child) := by
    refine List.map_eq_replicate_iff.2 fun i hi => ?_
    obtain ⟨id, _, rfl⟩ := List.mem_map.1 hi
    rfl
  have hcount : (stepOver position nullable head item).length ≤ nullable.length := by
    unfold stepOver emptyDerivations
    rw [List.length_map, List.length_map]
    exact List.length_filter_le _ _
  have hchild := r.weight_pos nullable.length child
  have hweight : r.weight nullable.length item
      = (nullable.length + 2) * r.weight nullable.length child := by
    unfold weight
    rw [hless, Nat.mul_comm]
    rfl
  rw [weightAll, hsame, ← List.sum_eq_foldl_nat, List.sum_replicate_nat, hweight]
  exact Nat.mul_lt_mul_of_pos_right (by omega) hchild

/-- An item that has moved over a token weighs less than the item that it comes from. -/
theorem weight_scan (r : Recognition T N H Tok) {base : Nat} {t : T} {item : Item}
    (hnext : item.next? r.grammar = .ok (some (.terminal t))) :
    r.weight base item.scan < r.weight base item := by
  have hless : r.remaining item = r.remaining item.scan + 1 :=
    r.remaining_of_dot_succ hnext rfl rfl
  unfold weight
  rw [hless]
  exact Nat.pow_lt_pow_right (by omega) (Nat.lt_succ_self _)

variable [Terminal T Tok]

/-- What follows a late alternative weighs less than the alternative itself. -/
theorem weight_followUps (r : Recognition T N H Tok) {position : Nat}
    {nullable : List (N × ItemId)} {item : Item} {items : List Item}
    (h : r.followUps position nullable item = .ok items) :
    r.weightAll nullable.length items < r.weight nullable.length item := by
  have hpos := r.weight_pos nullable.length item
  obtain ⟨next, hnext, h⟩ := bind_eq_ok_iff.1 h
  cases next with
  | none =>
    cases h
    exact hpos
  | some symbol =>
    cases symbol with
    | nonterminal head =>
      cases h
      exact r.weight_stepOver hnext
    | terminal t =>
      cases h
      split
      · rw [weightAll_cons]
        exact r.weight_scan hnext
      · exact hpos

/-- What an insertion adds to the agenda weighs less than the inserted item. -/
theorem weight_late (r : Recognition T N H Tok) {chart : Chart} {position : Nat}
    {processed : Option ItemId} {nullable : List (N × ItemId)} {item : Item}
    {insertion : Insertion} {items : List Item}
    (h : r.late chart position processed nullable item insertion = .ok items) :
    r.weightAll nullable.length items < r.weight nullable.length item := by
  have hpos := r.weight_pos nullable.length item
  cases insertion with
  | merged slot alternative =>
    obtain ⟨test, _, h⟩ := bind_eq_ok_iff.1 h
    cases test with
    | true => exact r.weight_followUps h
    | false =>
      cases h
      exact hpos
  | added slot =>
    cases h
    exact hpos
  | duplicate slot =>
    cases h
    exact hpos
  | dropped slot =>
    cases h
    exact hpos

/-- The order in which steps descend. -/
def progressMeasure (r : Recognition T N H Tok) (state : State N) : Nat × Nat × Nat :=
  (r.tokens.size - state.position, r.slotBound state.position - state.cursor,
    r.weightAll state.nullable.length state.agenda)

/-- Every step makes progress. -/
theorem Leads.progress {r : Recognition T N H Tok} {s s' : State N} (h : r.Leads s s') :
    Prod.Lex (· < ·) (Prod.Lex (· < ·) (· < ·)) (r.progressMeasure s') (r.progressMeasure s) := by
  obtain ⟨chart, position, cursor, processed, nullable, agenda⟩ := s
  unfold Leads step at h
  cases agenda with
  | cons item agenda =>
    simp only at h
    split at h
    · cases h
    · split at h
      · cases h
      · rename_i hlate
        cases h
        refine Prod.Lex.right _ (Prod.Lex.right _ ?_)
        have hless := r.weight_late hlate
        simp only [weightAll_append, weightAll_cons]
        omega
  | nil =>
    simp only at h
    split at h
    · cases h
    · split at h
      · split at h
        · rename_i hbound
          split at h
          · cases h
          · cases h
            refine Prod.Lex.right _ (Prod.Lex.left _ _ ?_)
            simp only
            omega
        · cases h
      · split at h
        · rename_i hmore
          cases h
          refine Prod.Lex.left _ _ ?_
          simp only
          omega
        · cases h

/-- Runs a recognition from a state to its end. -/
def finish (r : Recognition T N H Tok) (state : State N) : Except Fault Chart :=
  match _h : r.step state with
  | .error fault => .error fault
  | .ok (.closed chart) => .ok chart
  | .ok (.running state') => r.finish state'
termination_by r.progressMeasure state
decreasing_by exact Leads.progress _h

/-- The chart of a recognition. -/
def chart (r : Recognition T N H Tok) : Except Fault Chart :=
  r.finish r.initial

end Earley.Recognition
