import Mathlib.Data.List.Forall2
import Mathlib.Data.Set.Finite.Basic
import Mathlib.Logic.Relation
import Earley.Grammar.Basic

/-!
# Derivations

What a grammar derives is said in two ways. Sentential forms are rewritten by replacing a nonterminal
by the production of one of its rules. Derivation trees record which rule stands where, and a forest
spells out a list of symbols over a stretch of the input. Both derive the same inputs.
-/

namespace Earley

variable {T N H Tok : Type} [DecidableEq N] [Terminal T Tok]

/-- The terminal admits the token at a position. -/
def AdmitsAt (tokens : Array Tok) (position : Nat) (t : T) : Prop :=
  ∃ token, tokens[position]? = some token ∧ Terminal.admits t token = true

/-- A derivation tree. A leaf names a terminal and the position of its token, an interior node the
    rule that is applied there. -/
inductive RuleTree (T : Type) where
  | leaf (t : T) (position : Nat)
  | node (rule : RuleId) (children : List (RuleTree T))

namespace Grammar

/-- One nonterminal of a sentential form is replaced by the production of a rule of it. -/
inductive Rewrites (g : Grammar T N H) : List (Symbol T N) → List (Symbol T N) → Prop where
  | apply (left right : List (Symbol T N)) {rule : Rule T N H} (hrule : rule ∈ g.rules) :
      Rewrites g (left ++ .nonterminal rule.head :: right) (left ++ rule.production ++ right)

/-- A sentential form derives another in any number of such replacements. -/
def Derives (g : Grammar T N H) : List (Symbol T N) → List (Symbol T N) → Prop :=
  Relation.ReflTransGen g.Rewrites

/-- The start symbol derives a sequence of terminals that admit the tokens one by one. -/
def DerivesTokens (g : Grammar T N H) (tokens : Array Tok) : Prop :=
  ∃ word : List T, g.Derives [.nonterminal g.start] (word.map .terminal) ∧
    List.Forall₂ (fun t token => Terminal.admits t token = true) word tokens.toList

/-- The forest spells out the symbols over the tokens from position `i` up to position `k`: a tree
    for each symbol, each beginning where the one before it ends. -/
inductive Spells (g : Grammar T N H) (tokens : Array Tok) :
    List (Symbol T N) → Nat → Nat → List (RuleTree T) → Prop where
  | nil (i : Nat) : Spells g tokens [] i i []
  | terminal {t : T} {symbols : List (Symbol T N)} {i k : Nat} {trees : List (RuleTree T)}
      (hadmits : AdmitsAt tokens i t) (hrest : Spells g tokens symbols (i + 1) k trees) :
      Spells g tokens (.terminal t :: symbols) i k (.leaf t i :: trees)
  | nonterminal {n : N} {id : RuleId} {rule : Rule T N H} {symbols : List (Symbol T N)}
      {i j k : Nat} {children trees : List (RuleTree T)}
      (hrule : g.rules[id]? = some rule) (hhead : rule.head = n)
      (hchildren : Spells g tokens rule.production i j children)
      (hrest : Spells g tokens symbols j k trees) :
      Spells g tokens (.nonterminal n :: symbols) i k (.node id children :: trees)

/-- The tree derives the whole input from the start symbol. -/
def IsDerivation (g : Grammar T N H) (tokens : Array Tok) (tree : RuleTree T) : Prop :=
  g.Spells tokens [.nonterminal g.start] 0 tokens.size [tree]

variable {g : Grammar T N H} {tokens : Array Tok}

namespace Spells

theorem le {symbols : List (Symbol T N)} {i k : Nat} {trees : List (RuleTree T)}
    (h : g.Spells tokens symbols i k trees) : i ≤ k := by
  induction h with
  | nil => exact Nat.le_refl _
  | terminal _ _ ih => omega
  | nonterminal _ _ _ _ ihchildren ihrest => omega

theorem le_size {symbols : List (Symbol T N)} {i k : Nat} {trees : List (RuleTree T)}
    (h : g.Spells tokens symbols i k trees) (hi : i ≤ tokens.size) : k ≤ tokens.size := by
  induction h with
  | nil => exact hi
  | terminal hadmits _ ih =>
    obtain ⟨_, htoken, _⟩ := hadmits
    exact ih (Array.getElem?_eq_some_iff.1 htoken).1
  | nonterminal _ _ _ _ ihchildren ihrest => exact ihrest (ihchildren hi)

theorem append {first second : List (Symbol T N)} {i j k : Nat} {trees others : List (RuleTree T)}
    (h : g.Spells tokens first i j trees) (h' : g.Spells tokens second j k others) :
    g.Spells tokens (first ++ second) i k (trees ++ others) := by
  induction h with
  | nil => exact h'
  | terminal hadmits _ ih => exact .terminal hadmits (ih h')
  | nonterminal hrule hhead hchildren _ _ ih => exact .nonterminal hrule hhead hchildren (ih h')

theorem exists_of_append {first second : List (Symbol T N)} {i k : Nat} {trees : List (RuleTree T)}
    (h : g.Spells tokens (first ++ second) i k trees) :
    ∃ j front back, g.Spells tokens first i j front ∧ g.Spells tokens second j k back := by
  induction first generalizing i trees with
  | nil => exact ⟨i, [], trees, .nil i, h⟩
  | cons symbol first ih =>
    rw [List.cons_append] at h
    cases h with
    | terminal hadmits hrest =>
      obtain ⟨j, front, back, hfront, hback⟩ := ih hrest
      exact ⟨j, _, back, .terminal hadmits hfront, hback⟩
    | nonterminal hrule hhead hchildren hrest =>
      obtain ⟨j, front, back, hfront, hback⟩ := ih hrest
      exact ⟨j, _, back, .nonterminal hrule hhead hchildren hfront, hback⟩

end Spells

/-- A forest for a sentential form gives one for each form that is rewritten to it. -/
theorem Rewrites.spells {before after : List (Symbol T N)} {i k : Nat} {trees : List (RuleTree T)}
    (h : g.Rewrites before after) (hspells : g.Spells tokens after i k trees) :
    ∃ others, g.Spells tokens before i k others := by
  obtain ⟨left, right, hrule⟩ := h
  obtain ⟨id, hid⟩ := Array.mem_iff_getElem?.1 hrule
  rw [List.append_assoc] at hspells
  obtain ⟨_, front, back, hfront, hback⟩ := hspells.exists_of_append
  obtain ⟨_, children, rest, hchildren, hrest⟩ := hback.exists_of_append
  exact ⟨_, hfront.append (.nonterminal hid rfl hchildren hrest)⟩

theorem Derives.spells {before after : List (Symbol T N)} {i k : Nat} {trees : List (RuleTree T)}
    (h : g.Derives before after) (hspells : g.Spells tokens after i k trees) :
    ∃ others, g.Spells tokens before i k others := by
  induction h using Relation.ReflTransGen.head_induction_on with
  | refl => exact ⟨trees, hspells⟩
  | head hstep _ ih =>
    obtain ⟨others, hothers⟩ := ih
    exact hstep.spells hothers

theorem Derives.append_left {before after : List (Symbol T N)} (h : g.Derives before after)
    (left : List (Symbol T N)) : g.Derives (left ++ before) (left ++ after) := by
  refine Relation.ReflTransGen.lift (p := g.Rewrites) (left ++ ·) ?_ _ _ h
  rintro _ _ ⟨front, back, hrule⟩
  simpa [Function.onFun] using Rewrites.apply (left ++ front) back hrule

theorem Derives.append_right {before after : List (Symbol T N)} (h : g.Derives before after)
    (right : List (Symbol T N)) : g.Derives (before ++ right) (after ++ right) := by
  refine Relation.ReflTransGen.lift (p := g.Rewrites) (· ++ right) ?_ _ _ h
  rintro _ _ ⟨front, back, hrule⟩
  simpa [Function.onFun] using Rewrites.apply front (back ++ right) hrule

/-- What a forest spells out derives the terminals at its leaves. -/
theorem Spells.derives {symbols : List (Symbol T N)} {i k : Nat} {trees : List (RuleTree T)}
    (h : g.Spells tokens symbols i k trees) :
    ∃ (word : List T) (leaves : List (RuleTree T)), g.Derives symbols (word.map .terminal) ∧
      g.Spells tokens (word.map .terminal) i k leaves := by
  induction h with
  | nil i => exact ⟨[], [], .refl, .nil i⟩
  | @terminal t _ i _ _ hadmits _ ih =>
    obtain ⟨word, leaves, hderives, hleaves⟩ := ih
    exact ⟨t :: word, _, hderives.append_left [.terminal t], .terminal hadmits hleaves⟩
  | @nonterminal n id rule symbols i j k _ _ hrule hhead _ _ ihchildren ihrest =>
    obtain ⟨inner, front, hinner, hfront⟩ := ihchildren
    obtain ⟨outer, back, houter, hback⟩ := ihrest
    refine ⟨inner ++ outer, front ++ back, ?_, ?_⟩
    · have hstep : g.Rewrites (.nonterminal n :: symbols) (rule.production ++ symbols) := by
        simpa [hhead] using Rewrites.apply [] symbols (Array.mem_of_getElem? hrule)
      rw [List.map_append]
      exact .head hstep ((hinner.append_right symbols).trans (houter.append_left _))
    · rw [List.map_append]
      exact hfront.append hback

/-- Terminals spell out the tokens that they admit. -/
theorem spells_terminals {word : List T} {consumed rest : List Tok} {i : Nat}
    (h : List.Forall₂ (fun t token => Terminal.admits t token = true) word consumed)
    (htokens : tokens.toList.drop i = consumed ++ rest) :
    ∃ leaves, g.Spells tokens (word.map .terminal) i (i + consumed.length) leaves := by
  induction h generalizing i with
  | nil => exact ⟨[], .nil i⟩
  | @cons t token word consumed hadmits _ ih =>
    have htoken : tokens[i]? = some token := by
      rw [← Array.getElem?_toList, ← List.head?_drop, htokens]
      rfl
    have hdrop : tokens.toList.drop (i + 1) = consumed ++ rest := by
      rw [← List.tail_drop, htokens]
      rfl
    obtain ⟨leaves, hleaves⟩ := ih hdrop
    refine ⟨.leaf t i :: leaves, .terminal ⟨token, htoken, hadmits⟩ ?_⟩
    rw [List.length_cons, Nat.add_comm consumed.length, ← Nat.add_assoc]
    exact hleaves

/-- Terminals admit the tokens that they spell out. -/
theorem Spells.terminals_admit {word : List T} {i k : Nat} {leaves : List (RuleTree T)}
    (h : g.Spells tokens (word.map .terminal) i k leaves) :
    ∃ consumed, List.Forall₂ (fun t token => Terminal.admits t token = true) word consumed ∧
      tokens.toList.drop i = consumed ++ tokens.toList.drop k := by
  induction word generalizing i leaves with
  | nil =>
    cases h
    exact ⟨[], .nil, rfl⟩
  | cons t word ih =>
    cases h with
    | terminal hadmits hrest =>
      obtain ⟨token, htoken, hadmits⟩ := hadmits
      obtain ⟨consumed, hconsumed, hdrop⟩ := ih hrest
      refine ⟨token :: consumed, .cons hadmits hconsumed, ?_⟩
      rw [← Array.getElem?_toList] at htoken
      obtain ⟨hlt, rfl⟩ := List.getElem?_eq_some_iff.1 htoken
      rw [List.drop_eq_getElem_cons hlt, hdrop, List.cons_append]

/-- If a rule rewrites the start symbol to itself, an input that has a derivation tree has infinitely
    many. -/
theorem IsDerivation.infinite {tree : RuleTree T} (h : g.IsDerivation tokens tree) {id : RuleId}
    {rule : Rule T N H} (hrule : g.rules[id]? = some rule) (hhead : rule.head = g.start)
    (hcycle : rule.production = [.nonterminal g.start]) :
    {tree | g.IsDerivation tokens tree}.Infinite := by
  let grow : RuleTree T → RuleTree T := fun tree => .node id [tree]
  have hgrow : ∀ tree, g.IsDerivation tokens tree → g.IsDerivation tokens (grow tree) := by
    intro tree htree
    refine .nonterminal hrule hhead ?_ (.nil _)
    rw [hcycle]
    exact htree
  have hsize : StrictMono fun n => sizeOf (grow^[n] tree) := by
    apply strictMono_nat_of_lt_succ
    intro n
    rw [Function.iterate_succ_apply']
    simp only [grow, RuleTree.node.sizeOf_spec, List.cons.sizeOf_spec, List.nil.sizeOf_spec]
    omega
  have hinjective : Function.Injective fun n => grow^[n] tree := by
    intro m n hmn
    exact hsize.injective (congrArg sizeOf hmn)
  apply Set.infinite_of_injective_forall_mem hinjective
  intro n
  induction n with
  | zero => exact h
  | succ n ih =>
    rw [Function.iterate_succ_apply']
    exact hgrow _ ih

/-- The start symbol derives the input if and only if it has a derivation tree. -/
theorem derivesTokens_iff_exists_isDerivation :
    g.DerivesTokens tokens ↔ ∃ tree, g.IsDerivation tokens tree := by
  constructor
  · rintro ⟨word, hderives, hadmits⟩
    have hdrop : tokens.toList.drop 0 = tokens.toList ++ [] := by simp
    obtain ⟨leaves, hleaves⟩ := spells_terminals (g := g) hadmits hdrop
    rw [Nat.zero_add, Array.length_toList] at hleaves
    obtain ⟨trees, htrees⟩ := hderives.spells hleaves
    cases htrees with
    | nonterminal hrule hhead hchildren hrest =>
      cases hrest
      exact ⟨_, .nonterminal hrule hhead hchildren (.nil _)⟩
  · rintro ⟨tree, htree⟩
    obtain ⟨word, leaves, hderives, hleaves⟩ := Spells.derives htree
    obtain ⟨consumed, hadmits, hdrop⟩ := hleaves.terminals_admit
    have hend : tokens.toList.drop tokens.size = [] := List.drop_eq_nil_of_le (by simp)
    have hconsumed : tokens.toList = consumed := by
      simpa only [hend, List.append_nil, List.drop_zero] using hdrop
    exact ⟨word, hderives, hconsumed ▸ hadmits⟩

end Grammar

end Earley
