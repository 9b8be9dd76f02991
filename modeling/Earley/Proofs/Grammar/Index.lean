import Mathlib.Data.List.Nodup
import Mathlib.Data.List.Perm.Basic
import Mathlib.Tactic.Common
import Earley.Fault

/-!
# The rules of a nonterminal

The index of a grammar is filled one rule at a time. Afterwards it lists, for each nonterminal, the
ids of its rules in ascending order, and these lists together hold every rule of the table once. So it
makes no difference whether the rules of a nonterminal are looked up or told by their heads.
-/

namespace Earley

/-- Positions ascend. -/
theorem pairwise_zipIdx {α : Type} (l : List α) :
    l.zipIdx.Pairwise fun entry later => entry.2 < later.2 := by
  have hpositions : (l.zipIdx.map Prod.snd).Pairwise (· < ·) := by
    rw [List.zipIdx_map_snd]
    exact List.pairwise_lt_range'
  exact List.pairwise_map.1 hpositions

namespace RuleIndex

variable {N : Type} [DecidableEq N]

/-- A new rule goes behind the other rules of its head. -/
theorem find?_insert (head other : N) (id : RuleId) (index : RuleIndex N) :
    (index.insert head id).find? other =
      if head = other then some ((index.find? other).getD [] ++ [id]) else index.find? other := by
  induction index with
  | nil =>
    simp only [insert, find?]
    split_ifs <;> rfl
  | cons entry rest ih =>
    obtain ⟨name, ids⟩ := entry
    simp only [insert]
    by_cases hname : name = head
    · subst hname
      simp only [find?, ↓reduceIte]
      split_ifs <;> rfl
    · simp only [hname, find?, ↓reduceIte, ih]
      by_cases hother : name = other
      · subst hother
        rw [if_pos rfl, if_pos rfl, if_neg fun h => hname h.symm]
      · simp only [hother, ↓reduceIte]

/-- A nonterminal joins the index with its first rule, behind those that have rules already. -/
theorem map_fst_insert (head : N) (id : RuleId) (index : RuleIndex N) :
    (index.insert head id).map Prod.fst =
      if head ∈ index.map Prod.fst then index.map Prod.fst else index.map Prod.fst ++ [head] := by
  induction index with
  | nil => rfl
  | cons entry rest ih =>
    obtain ⟨name, ids⟩ := entry
    simp only [insert, List.map_cons, List.mem_cons]
    by_cases hname : name = head
    · subst hname
      simp
    · simp only [hname, ↓reduceIte, List.map_cons, ih, Ne.symm hname, false_or]
      split_ifs <;> rfl

theorem isSome_find?_iff {head : N} {index : RuleIndex N} :
    (index.find? head).isSome = true ↔ head ∈ index.map Prod.fst := by
  induction index with
  | nil => simp [find?]
  | cons entry rest ih =>
    obtain ⟨name, ids⟩ := entry
    simp only [find?, List.map_cons, List.mem_cons]
    by_cases hname : name = head
    · simp [hname]
    · simp only [hname, Ne.symm hname, ↓reduceIte, ih, false_or]

/-- No nonterminal is entered twice. -/
theorem nodup_map_fst_addAll (heads : List N) {index : RuleIndex N} (next : RuleId)
    (h : (index.map Prod.fst).Nodup) : ((index.addAll next heads).map Prod.fst).Nodup := by
  induction heads generalizing index next with
  | nil => exact h
  | cons head heads ih =>
    refine ih (next + 1) ?_
    rw [map_fst_insert]
    split_ifs with hmem
    · exact h
    · rw [← List.concat_eq_append]
      exact h.concat hmem

theorem getD_find?_addAll (heads : List N) (other : N) (index : RuleIndex N) (next : RuleId) :
    ((index.addAll next heads).find? other).getD [] =
      (index.find? other).getD [] ++
        ((heads.zipIdx next).filter (·.1 = other)).map Prod.snd := by
  induction heads generalizing index next with
  | nil => simp [addAll]
  | cons head heads ih =>
    rw [addAll, ih, find?_insert, List.zipIdx_cons]
    by_cases hhead : head = other
    · subst hhead
      simp
    · simp [hhead]

theorem isSome_find?_addAll_iff (heads : List N) (other : N) (index : RuleIndex N) (next : RuleId) :
    ((index.addAll next heads).find? other).isSome = true ↔
      (index.find? other).isSome = true ∨ other ∈ heads := by
  induction heads generalizing index next with
  | nil => simp [addAll]
  | cons head heads ih =>
    rw [addAll, ih, find?_insert, List.mem_cons]
    by_cases hhead : head = other
    · simp [hhead]
    · simp [hhead, Ne.symm hhead]

/-- The index of a table has an entry for each nonterminal that heads a rule. -/
theorem isSome_find?_ofRules_iff {T H : Type} {rules : Array (Rule T N H)} {head : N} :
    ((ofRules rules).find? head).isSome = true ↔ ∃ rule ∈ rules, rule.head = head := by
  rw [ofRules, isSome_find?_addAll_iff, List.mem_map]
  simp [find?]

end RuleIndex

namespace Grammar

variable {T N H : Type} [DecidableEq N] (g : Grammar T N H)

theorem defines_iff {n : N} : g.defines n = true ↔ ∃ rule ∈ g.rules, rule.head = n := by
  rw [defines, g.index_eq, RuleIndex.isSome_find?_ofRules_iff]

/-- The rules of a nonterminal are those that the table shows for it, in the order of the table. -/
theorem rulesFor_eq (head : N) :
    g.rulesFor head =
      (((g.rules.toList.map Rule.head).zipIdx).filter (·.1 = head)).map Prod.snd := by
  rw [rulesFor, g.index_eq, RuleIndex.ofRules, RuleIndex.getD_find?_addAll]
  rfl

theorem mem_rulesFor_iff {head : N} {id : RuleId} :
    id ∈ g.rulesFor head ↔ ∃ rule, g.rules[id]? = some rule ∧ rule.head = head := by
  rw [rulesFor_eq, List.mem_map]
  constructor
  · rintro ⟨⟨name, found⟩, hmem, rfl⟩
    obtain ⟨hentry, hname⟩ := List.mem_filter.1 hmem
    have hlookup := List.mk_mem_zipIdx_iff_getElem?.1 hentry
    rw [List.getElem?_map, Option.map_eq_some_iff] at hlookup
    obtain ⟨rule, hrule, rfl⟩ := hlookup
    rw [Array.getElem?_toList] at hrule
    exact ⟨rule, hrule, by simpa using hname⟩
  · rintro ⟨rule, hrule, rfl⟩
    refine ⟨(rule.head, id), List.mem_filter.2 ⟨?_, by simp⟩, rfl⟩
    rw [List.mk_mem_zipIdx_iff_getElem?, List.getElem?_map, Array.getElem?_toList, hrule]
    rfl

/-- The rules of a nonterminal are listed in the order of their numbers. -/
theorem rulesFor_ascend (head : N) : (g.rulesFor head).Pairwise (· < ·) := by
  rw [rulesFor_eq]
  exact List.pairwise_map.2 ((pairwise_zipIdx _).filter _)

/-- A rule is listed under its head and under nothing else. -/
theorem mem_rulesFor_iff_eq_head {id : RuleId} {rule : Rule T N H} (h : g.rules[id]? = some rule)
    {n : N} : id ∈ g.rulesFor n ↔ n = rule.head := by
  rw [mem_rulesFor_iff, h]
  simp [eq_comm]

theorem rulesFor_ne_nil_iff {n : N} : g.rulesFor n ≠ [] ↔ g.defines n = true := by
  rw [defines_iff]
  constructor
  · intro hne
    obtain ⟨id, hid⟩ := List.exists_mem_of_ne_nil _ hne
    obtain ⟨rule, hrule, hhead⟩ := g.mem_rulesFor_iff.1 hid
    exact ⟨rule, Array.mem_of_getElem? hrule, hhead⟩
  · rintro ⟨rule, hrule, hhead⟩
    obtain ⟨id, hid⟩ := Array.mem_iff_getElem?.1 hrule
    exact List.ne_nil_of_mem (g.mem_rulesFor_iff.2 ⟨rule, hid, hhead⟩)

theorem mem_nonterminals_iff {n : N} : n ∈ g.nonterminals ↔ g.rulesFor n ≠ [] := by
  rw [rulesFor_ne_nil_iff]
  exact RuleIndex.isSome_find?_iff.symm

theorem nodup_nonterminals : g.nonterminals.Nodup := by
  rw [nonterminals, g.index_eq]
  exact RuleIndex.nodup_map_fst_addAll _ 0 List.nodup_nil

/-- The lists of all nonterminals together hold every rule once. -/
theorem perm_flatMap_rulesFor :
    (g.nonterminals.flatMap g.rulesFor).Perm (List.range g.rules.size) := by
  have hnodup : (g.nonterminals.flatMap g.rulesFor).Nodup := by
    refine List.nodup_flatMap.2 ⟨fun n _ => (g.rulesFor_ascend n).imp Nat.ne_of_lt, ?_⟩
    -- Two lists that share an id are both lists of the head of its rule.
    refine g.nodup_nonterminals.imp fun hne id hid hother => hne ?_
    obtain ⟨rule, hrule, hhead⟩ := g.mem_rulesFor_iff.1 hid
    rw [← hhead, (g.mem_rulesFor_iff_eq_head hrule).1 hother]
  refine (List.perm_ext_iff_of_nodup hnodup List.nodup_range).2 fun id => ?_
  rw [List.mem_flatMap, List.mem_range]
  constructor
  · rintro ⟨n, -, hid⟩
    obtain ⟨rule, hrule, _⟩ := g.mem_rulesFor_iff.1 hid
    exact (Array.getElem?_eq_some_iff.1 hrule).1
  · intro hid
    have hlisted := (g.mem_rulesFor_iff_eq_head (Array.getElem?_eq_getElem hid)).2 rfl
    exact ⟨_, g.mem_nonterminals_iff.2 (List.ne_nil_of_mem hlisted), hlisted⟩

/-- The rules that are looked up for the start symbol are those whose heads tell that they are its. -/
theorem mem_startRules_iff {id : RuleId} :
    id ∈ g.startRules ↔ ∃ rule, g.rule id = .ok rule ∧ g.IsStartRule rule := by
  simp only [startRules, mem_rulesFor_iff, rule_eq_ok_iff, IsStartRule]

/-- The agreement of the table of rules with what the index tells of it. -/
structure IndexesRules : Prop where
  /-- Listed under a nonterminal are the rules that it heads. -/
  mem_rulesFor_iff : ∀ n id, id ∈ g.rulesFor n ↔ ∃ rule, g.rules[id]? = some rule ∧ rule.head = n
  rulesFor_ascend : ∀ n, (g.rulesFor n).Pairwise (· < ·)
  /-- Each rule is listed under one nonterminal. -/
  existsUnique_list : ∀ id < g.rules.size, ∃! n, id ∈ g.rulesFor n
  /-- Nothing is listed but the rules, each of them once. -/
  perm_flatMap_rulesFor : (g.nonterminals.flatMap g.rulesFor).Perm (List.range g.rules.size)
  defines_iff : ∀ n, g.defines n = true ↔ g.rulesFor n ≠ []
  mem_nonterminals_iff : ∀ n, n ∈ g.nonterminals ↔ g.rulesFor n ≠ []
  nodup_nonterminals : g.nonterminals.Nodup
  /-- What is looked up for the start symbol is what passes for a rule of it. -/
  mem_startRules_iff : ∀ id, id ∈ g.startRules ↔ ∃ rule, g.rule id = .ok rule ∧ g.IsStartRule rule

theorem indexesRules : g.IndexesRules where
  mem_rulesFor_iff _ _ := g.mem_rulesFor_iff
  rulesFor_ascend := g.rulesFor_ascend
  existsUnique_list id hid := by
    have hhead {n : N} := g.mem_rulesFor_iff_eq_head (Array.getElem?_eq_getElem hid) (n := n)
    exact ⟨_, hhead.2 rfl, fun _ hlisted => hhead.1 hlisted⟩
  perm_flatMap_rulesFor := g.perm_flatMap_rulesFor
  defines_iff _ := g.rulesFor_ne_nil_iff.symm
  mem_nonterminals_iff _ := g.mem_nonterminals_iff
  nodup_nonterminals := g.nodup_nonterminals
  mem_startRules_iff _ := g.mem_startRules_iff

end Grammar

end Earley
