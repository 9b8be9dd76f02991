import Earley.Grammar.Builder
import Earley.Proofs.Grammar.Index
import Earley.Variable

/-!
# Building grammars

A builder remembers two things of the calls made on it: the rules that were added, in order, and the start
symbol that was given last. These decide whether there is a grammar to build, and which one.
-/

namespace Earley.GrammarBuilder

variable {T N H : Type}

/-- A call on a grammar under construction. -/
inductive Call (T N H : Type) where
  | entryPoint (start : N)
  | rule (head : N) (production : List (Symbol T N))
  | ruleWithHooks (head : N) (production : List (Symbol T N)) (enter exit : Option H)

namespace Call

/-- The start symbol that a call gives. -/
def start? : Call T N H → Option N
  | entryPoint start => some start
  | rule _ _ => none
  | ruleWithHooks _ _ _ _ => none

/-- The rule that a call adds. -/
def rule? : Call T N H → Option (Rule T N H)
  | entryPoint _ => none
  | rule head production => some ⟨head, production, none, none⟩
  | ruleWithHooks head production enter exit => some ⟨head, production, enter, exit⟩

/-- The start symbol that is given last. -/
def lastStart? (calls : List (Call T N H)) : Option N :=
  (calls.filterMap start?).getLast?

/-- The rules that are added, in the order of the calls. -/
def addedRules (calls : List (Call T N H)) : List (Rule T N H) :=
  calls.filterMap rule?

theorem lastStart?_cons (call : Call T N H) (calls : List (Call T N H)) :
    lastStart? (call :: calls) = (lastStart? calls).or call.start? := by
  unfold lastStart?
  rw [List.filterMap_cons]
  cases call.start? with
  | none => exact Option.or_none.symm
  | some start =>
    dsimp only
    rw [List.getLast?_cons]
    cases (calls.filterMap start?).getLast? <;> rfl

theorem lastStart?_eq_none_iff {calls : List (Call T N H)} :
    lastStart? calls = none ↔ ∀ call ∈ calls, call.start? = none := by
  rw [lastStart?, List.getLast?_eq_none_iff, List.filterMap_eq_nil_iff]

theorem addedRules_cons (call : Call T N H) (calls : List (Call T N H)) :
    addedRules (call :: calls) = call.rule?.toList ++ addedRules calls := by
  unfold addedRules
  rw [List.filterMap_cons]
  cases call.rule? <;> rfl

end Call

/-- The builder after a call. -/
def after (b : GrammarBuilder T N H) : Call T N H → GrammarBuilder T N H
  | .entryPoint start => b.entryPoint start
  | .rule head production => b.rule head production
  | .ruleWithHooks head production enter exit => b.ruleWithHooks head production enter exit

/-- The builder after several calls. -/
def afterAll (b : GrammarBuilder T N H) (calls : List (Call T N H)) : GrammarBuilder T N H :=
  calls.foldl after b

section Calls

variable (b : GrammarBuilder T N H)

theorem entry?_after (call : Call T N H) : entry? (b.after call) = call.start?.or b.entry? := by
  cases call <;> rfl

theorem rules_after (call : Call T N H) :
    (b.after call).rules.toList = b.rules.toList ++ call.rule?.toList := by
  cases call with
  | entryPoint start => exact (List.append_nil _).symm
  | rule head production => exact Array.toList_push
  | ruleWithHooks head production enter exit => exact Array.toList_push

theorem entry?_afterAll (calls : List (Call T N H)) :
    entry? (b.afterAll calls) = (Call.lastStart? calls).or b.entry? := by
  induction calls generalizing b with
  | nil => rfl
  | cons call calls ih =>
    rw [Call.lastStart?_cons, Option.or_assoc, ← entry?_after]
    exact ih (b.after call)

theorem rules_afterAll (calls : List (Call T N H)) :
    (b.afterAll calls).rules.toList = b.rules.toList ++ Call.addedRules calls := by
  induction calls generalizing b with
  | nil => exact (List.append_nil _).symm
  | cons call calls ih =>
    rw [Call.addedRules_cons, ← List.append_assoc, ← rules_after]
    exact ih (b.after call)

end Calls

section Build

variable [DecidableEq N] [Nonterminal N] {b : GrammarBuilder T N H}

theorem build_eq_missingEntryPoint_iff :
    b.build = .error .missingEntryPoint ↔ b.entry? = none := by
  obtain ⟨rules, _ | start⟩ := b
  · simp [build]
  · simp only [build]
    split_ifs <;> simp

section Entry

variable {start : N} (hentry : b.entry? = some start) (hsize : b.rules.size < maxRules)
include hentry hsize

/-- Given a start symbol, and not too many rules, all depends on what the index has for it. -/
theorem build_of_entry :
    b.build =
      if h : ((RuleIndex.ofRules b.rules).find? start).isSome = true then
        .ok ⟨b.rules, start, RuleIndex.ofRules b.rules, rfl, h⟩
      else
        .error (.noStartRule (Nonterminal.name start)) := by
  unfold build
  rw [hentry]
  exact if_pos hsize

theorem exists_build_eq_ok (hstart : ∃ rule ∈ b.rules, rule.head = start) :
    ∃ g : Grammar T N H, b.build = .ok g ∧ g.start = start ∧ g.rules = b.rules := by
  rw [build_of_entry hentry hsize, dif_pos (RuleIndex.isSome_find?_ofRules_iff.2 hstart)]
  exact ⟨_, rfl, rfl, rfl⟩

theorem build_eq_noStartRule (hstart : ∀ rule ∈ b.rules, rule.head ≠ start) :
    b.build = .error (.noStartRule (Nonterminal.name start)) := by
  rw [build_of_entry hentry hsize, dif_neg]
  intro hindexed
  obtain ⟨rule, hrule, hhead⟩ := RuleIndex.isSome_find?_ofRules_iff.1 hindexed
  exact hstart rule hrule hhead

theorem build_eq_noStartRule_iff {name : String} :
    b.build = .error (.noStartRule name) ↔
      name = Nonterminal.name start ∧ ∀ rule ∈ b.rules, rule.head ≠ start := by
  constructor
  · intro h
    have hstart : ∀ rule ∈ b.rules, rule.head ≠ start := by
      intro rule hrule hhead
      obtain ⟨g, hok, _⟩ := exists_build_eq_ok hentry hsize ⟨rule, hrule, hhead⟩
      rw [hok] at h
      cases h
    rw [build_eq_noStartRule hentry hsize hstart] at h
    cases h
    exact ⟨rfl, hstart⟩
  · rintro ⟨rfl, hstart⟩
    exact build_eq_noStartRule hentry hsize hstart

end Entry

/-- An entry point is missing if and only if no call gives a start symbol, and a start rule if and only if
    no call adds a rule of the start symbol that is given last. Otherwise the grammar has the rules in the
    order of the calls, its index agrees with them, and 32 bits can hold their ids. -/
theorem build_indexes_added_rules (calls : List (Call T N H))
    (hcount : (Call.addedRules calls).length < maxRules) :
    ((empty.afterAll calls).build = .error .missingEntryPoint ↔
      ∀ call ∈ calls, call.start? = none) ∧
    ∀ start, Call.lastStart? calls = some start →
      (∀ name, (empty.afterAll calls).build = .error (.noStartRule name) ↔
        name = Nonterminal.name start ∧ ∀ rule ∈ Call.addedRules calls, rule.head ≠ start) ∧
      ((∃ rule ∈ Call.addedRules calls, rule.head = start) →
        ∃ g : Grammar T N H, (empty.afterAll calls).build = .ok g ∧ g.start = start ∧
          g.rules.toList = Call.addedRules calls ∧ g.IndexesRules ∧
          ∀ id < g.rules.size, (UInt32.ofNat id).toNat = id) := by
  have hentry : entry? (empty.afterAll calls : GrammarBuilder T N H) = Call.lastStart? calls :=
    (entry?_afterAll empty calls).trans (Option.or_none)
  have hrules : (empty.afterAll calls).rules.toList = Call.addedRules calls :=
    rules_afterAll empty calls
  rw [← hrules, Array.length_toList] at hcount
  rw [build_eq_missingEntryPoint_iff, hentry, Call.lastStart?_eq_none_iff]
  refine ⟨Iff.rfl, fun start hstart => ?_⟩
  rw [← hentry] at hstart
  simp only [← hrules, Array.mem_toList_iff]
  refine ⟨fun name => build_eq_noStartRule_iff hstart hcount, fun hheads => ?_⟩
  obtain ⟨g, hbuild, rfl, hsame⟩ := exists_build_eq_ok hstart hcount hheads
  refine ⟨g, hbuild, rfl, congrArg _ hsame, g.indexesRules, fun id hid => ?_⟩
  rw [← hsame] at hcount
  exact UInt32.toNat_ofNat_of_lt (Nat.lt_trans hid hcount)

end Build

/-- Rules of two nonterminals that share a name. The one that is given last heads the first and the last
    of them. -/
def variants : List (Call Char Variable String) :=
  [.entryPoint ⟨"A#1"⟩, .rule ⟨"A#2"⟩ [.terminal 'x'],
    .ruleWithHooks ⟨"A#1"⟩ [.nonterminal ⟨"A#2"⟩] (some "open") none, .entryPoint ⟨"A#2"⟩,
    .rule ⟨"A#2"⟩ []]

/-- The rules of the two nonterminals are listed apart. -/
theorem build_indexes_added_rules_variants :
    (Call.addedRules variants).length < maxRules ∧
      Call.lastStart? variants = some ⟨"A#2"⟩ ∧
      (∃ rule ∈ Call.addedRules variants, rule.head = ⟨"A#2"⟩) ∧
      ∃ g : Grammar Char Variable String, (empty.afterAll variants).build = .ok g ∧
        g.start = ⟨"A#2"⟩ ∧ g.rules.toList = Call.addedRules variants ∧ g.IndexesRules ∧
        (∀ id < g.rules.size, (UInt32.ofNat id).toNat = id) ∧
        g.startRules = [0, 2] ∧ g.rulesFor ⟨"A#1"⟩ = [1] := by
  have hcount : (Call.addedRules variants).length < maxRules := by decide
  have hlast : Call.lastStart? variants = some ⟨"A#2"⟩ := rfl
  have hheads : ∃ rule ∈ Call.addedRules variants, rule.head = ⟨"A#2"⟩ :=
    ⟨_, List.mem_cons_self, rfl⟩
  obtain ⟨_, hgrammar⟩ := build_indexes_added_rules variants hcount
  obtain ⟨g, hbuild, hstart, hrules, hindexes, hids⟩ := (hgrammar _ hlast).2 hheads
  refine ⟨hcount, hlast, hheads, g, hbuild, hstart, hrules, hindexes, hids, ?_, ?_⟩
  · rw [Grammar.startRules, hstart, g.rulesFor_eq, hrules]
    decide
  · rw [g.rulesFor_eq, hrules]
    decide

end Earley.GrammarBuilder
