import Earley.Chart.Item
import Earley.Proofs.Grammar.Derivation

/-!
# Valid items

Whether an item belongs at a position is a question about the grammar and the tokens alone. Its rule must
be wanted at the origin: some sentential form has the head of the rule behind terminals that admit the
tokens up to there. And what is left of the dot must derive the tokens from the origin on.
-/

namespace Earley.Grammar

variable {T N H Tok : Type} [DecidableEq N] [Terminal T Tok]

/-- The terminals admit the tokens from position `i` up to position `k` one by one. -/
def Reads (tokens : Array Tok) (word : List T) (i k : Nat) : Prop :=
  List.Forall₂ (fun t token => Terminal.admits t token = true) word (tokens.extract i k).toList

/-- The symbols derive terminals that admit the tokens from position `i` up to position `k`. -/
def DerivesStretch (g : Grammar T N H) (tokens : Array Tok) (symbols : List (Symbol T N))
    (i k : Nat) : Prop :=
  ∃ word : List T, g.Derives symbols (word.map .terminal) ∧ Reads tokens word i k

/-- The start symbol derives a sentential form in which `n` stands behind terminals that admit the
    tokens before `position`. -/
def Wants (g : Grammar T N H) (tokens : Array Tok) (position : Nat) (n : N) : Prop :=
  ∃ (word : List T) (rest : List (Symbol T N)),
    g.Derives [.nonterminal g.start] (word.map .terminal ++ .nonterminal n :: rest) ∧
    Reads tokens word 0 position

/-- The grammar justifies an item of this key at a position. -/
def ValidAt (g : Grammar T N H) (tokens : Array Tok) (position : Nat) (key : ItemKey) : Prop :=
  ∃ rule, g.rules[key.rule]? = some rule ∧ key.dot ≤ rule.length ∧ key.origin ≤ position ∧
    g.Wants tokens key.origin rule.head ∧
    g.DerivesStretch tokens (rule.production.take key.dot) key.origin position

variable {g : Grammar T N H} {tokens : Array Tok} {symbols : List (Symbol T N)} {i j k : Nat}

omit [DecidableEq N] in
theorem Reads.append {word word' : List T} (h : Reads tokens word i j)
    (h' : Reads tokens word' j k) (hij : i ≤ j) (hjk : j ≤ k) :
    Reads tokens (word ++ word') i k := by
  have hsplit : (tokens.extract i k).toList =
      (tokens.extract i j).toList ++ (tokens.extract j k).toList := by
    rw [← Array.toList_append, Array.extract_append_extract, Nat.min_eq_left hij,
      Nat.max_eq_right hjk]
  unfold Reads
  rw [hsplit]
  exact List.rel_append h h'

/-- Deriving a stretch of the input is being spelled out by a forest. -/
theorem derivesStretch_iff_exists_spells (hik : i ≤ k) (hk : k ≤ tokens.size) :
    g.DerivesStretch tokens symbols i k ↔ ∃ trees, g.Spells tokens symbols i k trees := by
  have hextract : (tokens.extract i k).toList = (tokens.toList.drop i).take (k - i) := by simp
  have hlength : (tokens.extract i k).toList.length = k - i := by
    rw [Array.length_toList, Array.size_extract]
    omega
  constructor
  · rintro ⟨word, hderives, hreads⟩
    have hdrop : tokens.toList.drop i = (tokens.extract i k).toList ++
        (tokens.toList.drop i).drop (k - i) := by
      rw [hextract, List.take_append_drop]
    obtain ⟨leaves, hleaves⟩ := spells_terminals (g := g) hreads hdrop
    rw [hlength, Nat.add_sub_cancel' hik] at hleaves
    exact hderives.spells hleaves
  · rintro ⟨trees, htrees⟩
    obtain ⟨word, leaves, hderives, hleaves⟩ := htrees.derives
    obtain ⟨consumed, hadmits, hdrop⟩ := hleaves.terminals_admit
    have hconsumed : consumed.length = k - i := by
      have hcount := congrArg List.length hdrop
      simp only [List.length_drop, List.length_append, Array.length_toList] at hcount
      omega
    refine ⟨word, hderives, ?_⟩
    unfold Reads
    rw [hextract, hdrop, ← hconsumed, List.take_left]
    exact hadmits

/-- The start symbol is wanted at the beginning. -/
theorem wants_start : g.Wants tokens 0 g.start :=
  ⟨[], [], .refl, by simp [Reads]⟩

/-- What stands behind the dot of a rule is wanted where what stands before it ends. -/
theorem Wants.expected {rule : Rule T N H} {dot : Nat} {n : N} (h : g.Wants tokens i rule.head)
    (hrule : rule ∈ g.rules) (hexpected : rule.production[dot]? = some (.nonterminal n))
    (hbefore : g.DerivesStretch tokens (rule.production.take dot) i k) (hik : i ≤ k) :
    g.Wants tokens k n := by
  obtain ⟨word, rest, hderives, hreads⟩ := h
  obtain ⟨inner, hinner, hinnerReads⟩ := hbefore
  obtain ⟨hdot, hsymbol⟩ := List.getElem?_eq_some_iff.1 hexpected
  have hproduction : rule.production =
      rule.production.take dot ++ .nonterminal n :: rule.production.drop (dot + 1) := by
    rw [← hsymbol, ← List.drop_eq_getElem_cons hdot, List.take_append_drop]
  refine ⟨word ++ inner, rule.production.drop (dot + 1) ++ rest, ?_,
    hreads.append hinnerReads (Nat.zero_le i) hik⟩
  have happlied := hderives.tail (Rewrites.apply (word.map .terminal) rest hrule)
  rw [hproduction] at happlied
  have hinner := (hinner.append_left (word.map .terminal)).append_right
    (.nonterminal n :: rule.production.drop (dot + 1) ++ rest)
  have hrest : g.Derives
      (word.map .terminal ++
        (rule.production.take dot ++ .nonterminal n :: rule.production.drop (dot + 1)) ++ rest)
      ((word ++ inner).map .terminal ++
        .nonterminal n :: (rule.production.drop (dot + 1) ++ rest)) := by
    simpa only [List.map_append, List.append_assoc, List.cons_append] using hinner
  exact happlied.trans hrest

end Earley.Grammar
