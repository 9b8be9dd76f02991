import Mathlib.Data.List.Flatten
import Mathlib.Data.List.Pairwise
import Mathlib.Data.Prod.Lex
import Earley.Grammar.Undefined
import Earley.Proofs.Grammar.Index

/-!
# References to undefined nonterminals

The occurrences of undefined nonterminals are read in the order of the rules and, within a rule, of its
production. What is reported is each reference once, in the order of first occurrences.
-/

namespace Earley

/-- An entry that is left once another value is dropped has another value. -/
theorem ne_of_mem_eraseDups_filter {α β : Type} [BEq β] [LawfulBEq β] {occurrences : List (α × β)}
    {b b' : β}
    (h : b' ∈ ((occurrences.filter fun other => !other.2 == b).map Prod.snd).eraseDups) :
    b' ≠ b := by
  rw [List.mem_eraseDups, List.mem_map] at h
  obtain ⟨found, hfound, rfl⟩ := h
  simpa using (List.mem_filter.1 hfound).2

/-- Removing repetitions from what stands at ordered places keeps the order of first places. -/
theorem pairwise_eraseDups {α β : Type} [BEq β] [LawfulBEq β] {R : α → α → Prop}
    {occurrences : List (α × β)} (h : occurrences.Pairwise (R ·.1 ·.1)) :
    (occurrences.map Prod.snd).eraseDups.Pairwise fun b b' => b ≠ b' ∧
      ∃ a, (a, b) ∈ occurrences ∧ ∀ a', (a', b') ∈ occurrences → R a a' := by
  cases occurrences with
  | nil => exact .nil
  | cons occurrence rest =>
    obtain ⟨a, b⟩ := occurrence
    obtain ⟨hfirst, hrest⟩ := List.pairwise_cons.1 h
    rw [List.map_cons, List.eraseDups_cons, List.filter_map]
    have hbehind {a' : α} {b' : β} (hne : b' ≠ b) (hmem : (a', b') ∈ (a, b) :: rest) :
        (a', b') ∈ rest :=
      (List.mem_cons.1 hmem).resolve_left fun heq => hne (congrArg Prod.snd heq)
    refine .cons (fun b' hb' => ?_) ?_
    · have hne := ne_of_mem_eraseDups_filter hb'
      exact ⟨hne.symm, a, List.mem_cons_self, fun a' ha' => hfirst _ (hbehind hne ha')⟩
    · -- What follows first stands behind the dropped value, whose places do not matter to it.
      refine (pairwise_eraseDups (hrest.filter fun other => !other.2 == b)).imp_of_mem ?_
      rintro b₁ b₂ - hb₂ ⟨hdistinct, a₁, ha₁, hbefore⟩
      have hne := ne_of_mem_eraseDups_filter hb₂
      refine ⟨hdistinct, a₁, List.mem_cons_of_mem _ (List.mem_filter.1 ha₁).1, fun a₂ ha₂ => ?_⟩
      exact hbefore a₂ (List.mem_filter.2 ⟨hbehind hne ha₂, by simpa using hne⟩)
termination_by occurrences.length
decreasing_by
  subst_vars
  exact Nat.lt_succ_of_le (List.length_filter_le _ _)

namespace Grammar

variable {T N H : Type} [DecidableEq N] (g : Grammar T N H)

/-- A rule of the reference's head has the reference's nonterminal at this place: the position of the
    rule in the table, and of the symbol in its production. -/
def NamesAt (reference : N × N) (place : Nat × Nat) : Prop :=
  ∃ rule, g.rules[place.1]? = some rule ∧ rule.head = reference.1 ∧
    rule.symbol? place.2 = some (.nonterminal reference.2)

/-- The reference made by a symbol of a production of `head`, if it is undefined. -/
def undefinedReference? (head : N) (symbol : Symbol T N) : Option (N × N) :=
  (symbol.nonterminal?.filter (!g.defines ·)).map (head, ·)

/-- All undefined references, each with its place. -/
def undefinedOccurrences : List ((Nat × Nat) × (N × N)) :=
  g.rules.toList.zipIdx.flatMap fun (rule, i) =>
    rule.production.zipIdx.filterMap fun (symbol, j) =>
      (g.undefinedReference? rule.head symbol).map ((i, j), ·)

/-- The places of the occurrences ascend. -/
theorem pairwise_undefinedOccurrences :
    g.undefinedOccurrences.Pairwise fun occurrence later =>
      Prod.Lex (· < ·) (· < ·) occurrence.1 later.1 := by
  refine List.pairwise_flatMap.2 ⟨?_, (pairwise_zipIdx _).imp ?_⟩
  · rintro ⟨rule, i⟩ -
    refine (pairwise_zipIdx rule.production).filterMap _ ?_
    rintro ⟨symbol, j⟩ ⟨symbol', j'⟩ hlt _ ho _ ho'
    obtain ⟨_, _, rfl⟩ := Option.map_eq_some_iff.1 ho
    obtain ⟨_, _, rfl⟩ := Option.map_eq_some_iff.1 ho'
    exact .right _ hlt
  · rintro ⟨rule, i⟩ ⟨rule', i'⟩ hlt _ ho _ ho'
    obtain ⟨⟨_, j⟩, _, ho⟩ := List.mem_filterMap.1 ho
    obtain ⟨⟨_, j'⟩, _, ho'⟩ := List.mem_filterMap.1 ho'
    obtain ⟨_, _, rfl⟩ := Option.map_eq_some_iff.1 ho
    obtain ⟨_, _, rfl⟩ := Option.map_eq_some_iff.1 ho'
    exact .left _ _ hlt

variable {g}

theorem undefinedReference?_eq_some_iff {head : N} {symbol : Symbol T N} {reference : N × N} :
    g.undefinedReference? head symbol = some reference ↔
      head = reference.1 ∧ symbol = .nonterminal reference.2 ∧ ¬ g.defines reference.2 := by
  obtain ⟨other, n⟩ := reference
  cases symbol with
  | terminal t => simp [undefinedReference?, Symbol.nonterminal?]
  | nonterminal m =>
    simp [undefinedReference?, Symbol.nonterminal?, Option.filter_eq_some_iff]
    grind

theorem mem_undefinedOccurrences_iff {place : Nat × Nat} {reference : N × N} :
    (place, reference) ∈ g.undefinedOccurrences ↔
      g.NamesAt reference place ∧ ¬ g.defines reference.2 := by
  simp only [undefinedOccurrences, List.mem_flatMap, List.mem_filterMap, Prod.exists,
    List.mk_mem_zipIdx_iff_getElem?, Option.map_eq_some_iff, Array.getElem?_toList]
  constructor
  · rintro ⟨rule, i, hrule, symbol, j, hsymbol, _, _, hfound, heq⟩
    cases heq
    obtain ⟨hhead, rfl, hundefined⟩ := undefinedReference?_eq_some_iff.1 hfound
    exact ⟨⟨rule, hrule, hhead, hsymbol⟩, hundefined⟩
  · rintro ⟨⟨rule, hrule, hhead, hsymbol⟩, hundefined⟩
    exact ⟨rule, place.1, hrule, _, place.2, hsymbol, _, _,
      undefinedReference?_eq_some_iff.2 ⟨hhead, rfl, hundefined⟩, rfl⟩

/-- The places left out, the occurrences in one production are its undefined nonterminals. -/
theorem map_snd_occurrences (rule : Rule T N H) (i : Nat) :
    (rule.production.zipIdx.filterMap fun (symbol, j) =>
        (g.undefinedReference? rule.head symbol).map (((i, j) : Nat × Nat), ·)).map Prod.snd =
      (rule.nonterminals.filter (!g.defines ·)).map (rule.head, ·) := by
  have hproduction : rule.production = rule.production.zipIdx.map Prod.fst :=
    (List.zipIdx_map_fst 0 rule.production).symm
  conv_rhs => rw [Rule.nonterminals, hproduction]
  rw [List.filterMap_map, List.filter_filterMap, List.map_filterMap, List.map_filterMap]
  simp only [undefinedReference?, Option.map_map, Function.comp_def]

/-- The undefined references are what occurs, once each. -/
theorem undefinedReferences_eq :
    g.undefinedReferences = (g.undefinedOccurrences.map Prod.snd).eraseDups := by
  have hrules : g.rules.toList = g.rules.toList.zipIdx.map Prod.fst :=
    (List.zipIdx_map_fst 0 g.rules.toList).symm
  unfold undefinedReferences undefinedOccurrences
  conv_lhs => rw [hrules]
  rw [List.flatMap_map, List.map_flatMap]
  simp only [map_snd_occurrences]

/-- A reference has a place if a production of its head has its nonterminal. -/
theorem exists_namesAt_iff {reference : N × N} :
    (∃ place, g.NamesAt reference place) ↔
      ∃ rule ∈ g.rules, rule.head = reference.1 ∧ .nonterminal reference.2 ∈ rule.production := by
  constructor
  · rintro ⟨place, rule, hrule, hhead, hsymbol⟩
    exact ⟨rule, Array.mem_of_getElem? hrule, hhead, List.mem_of_getElem? hsymbol⟩
  · rintro ⟨rule, hrule, hhead, hsymbol⟩
    obtain ⟨i, hi⟩ := Array.mem_iff_getElem?.1 hrule
    obtain ⟨j, hj⟩ := List.mem_iff_getElem?.1 hsymbol
    exact ⟨(i, j), rule, hi, hhead, hj⟩

/-- A reference is undefined if some rule makes it and no rule defines its nonterminal. -/
theorem mem_undefinedReferences_iff {reference : N × N} :
    reference ∈ g.undefinedReferences ↔
      (∃ place, g.NamesAt reference place) ∧ ∀ rule ∈ g.rules, rule.head ≠ reference.2 := by
  rw [undefinedReferences_eq, List.mem_eraseDups, List.mem_map]
  have hundefined : (¬ g.defines reference.2) ↔ ∀ rule ∈ g.rules, rule.head ≠ reference.2 := by
    rw [defines_iff]
    push Not
    rfl
  constructor
  · rintro ⟨⟨place, _⟩, hmem, rfl⟩
    obtain ⟨hnames, hnone⟩ := mem_undefinedOccurrences_iff.1 hmem
    exact ⟨⟨place, hnames⟩, hundefined.1 hnone⟩
  · rintro ⟨⟨place, hnames⟩, hnone⟩
    exact ⟨(place, reference),
      mem_undefinedOccurrences_iff.2 ⟨hnames, hundefined.2 hnone⟩, rfl⟩

/-- No undefined reference is listed twice, and they are listed in the order in which the table of
    rules makes them first. -/
theorem pairwise_undefinedReferences :
    g.undefinedReferences.Pairwise fun reference later => reference ≠ later ∧
      ∃ place, g.NamesAt reference place ∧
        ∀ place', g.NamesAt later place' → Prod.Lex (· < ·) (· < ·) place place' := by
  have hpairwise := pairwise_eraseDups g.pairwise_undefinedOccurrences
  rw [← undefinedReferences_eq] at hpairwise
  refine hpairwise.imp_of_mem ?_
  rintro reference later - hlater ⟨hne, place, hplace, hbefore⟩
  refine ⟨hne, place, (mem_undefinedOccurrences_iff.1 hplace).1, fun place' hplace' => ?_⟩
  refine hbefore place' (mem_undefinedOccurrences_iff.2 ⟨hplace', ?_⟩)
  rw [defines_iff]
  rintro ⟨rule, hrule, hhead⟩
  exact (mem_undefinedReferences_iff.1 hlater).2 rule hrule hhead

/-- There is nothing undefined if each nonterminal of each production heads a rule. -/
theorem undefinedReferences_eq_nil_iff :
    g.undefinedReferences = [] ↔ ∀ rule ∈ g.rules, ∀ n, .nonterminal n ∈ rule.production →
      ∃ other ∈ g.rules, other.head = n := by
  simp only [List.eq_nil_iff_forall_not_mem, Prod.forall, mem_undefinedReferences_iff,
    exists_namesAt_iff]
  constructor
  · intro h rule hrule n hn
    by_contra hnone
    push Not at hnone
    exact h rule.head n ⟨⟨rule, hrule, rfl, hn⟩, hnone⟩
  · rintro h head n ⟨⟨rule, hrule, _, hsymbol⟩, hnone⟩
    obtain ⟨other, hother, hhead⟩ := h rule hrule n hsymbol
    exact hnone other hother hhead

end Grammar

end Earley
