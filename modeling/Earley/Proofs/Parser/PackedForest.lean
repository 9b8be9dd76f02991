import Earley.Proofs.Parser.Results
import Earley.Proofs.Recognition.Packing

/-!
# The packed forest of an input

Where derivations are merged, a parser's chart holds all derivations of its input and nothing twice. A
cyclic grammar derives some inputs by infinitely many trees, and the finite chart unfolds to all of
them.
-/

namespace Earley.Parser

variable {T N H Tok : Type} [DecidableEq N] [Terminal T Tok]

/-- The derivation trees of the input are what the accepting items unfold to. -/
theorem isDerivation_iff_exists_unfolds (g : Grammar T N H) (options : ParserOptions)
    (tokens : Array Tok) :
    ∃ chart ids, (Parser.mk g { options with ambiguity := .merge }).recognize tokens = .ok chart ∧
      chart.accepting g = .ok ids ∧
      ∀ tree, g.IsDerivation tokens tree ↔ ∃ id ∈ ids, chart.Unfolds g id tree := by
  obtain ⟨chart, trees, h⟩ := exists_results ⟨g, { options with ambiguity := .merge }⟩ tokens
  exact ⟨chart, _, h.recognize_eq, h.accepting_eq, fun tree => h.filled.isDerivation_iff_unfolds rfl⟩

/-- If a rule rewrites the start symbol to itself, the finite chart of a derived input unfolds to
    infinitely many trees. -/
theorem exists_infinite_unfolds (g : Grammar T N H) (options : ParserOptions) (tokens : Array Tok)
    {id : RuleId} {rule : Rule T N H} (hrule : g.rules[id]? = some rule) (hhead : rule.head = g.start)
    (hcycle : rule.production = [.nonterminal g.start]) (hderives : g.DerivesTokens tokens) :
    ∃ chart ids, (Parser.mk g { options with ambiguity := .merge }).recognize tokens = .ok chart ∧
      chart.accepting g = .ok ids ∧ ∃ id ∈ ids, {tree | chart.Unfolds g id tree}.Infinite := by
  obtain ⟨chart, trees, h⟩ := exists_results ⟨g, { options with ambiguity := .merge }⟩ tokens
  obtain ⟨tree, htree⟩ := Grammar.derivesTokens_iff_exists_isDerivation.1 hderives
  have hinfinite : {tree | g.IsDerivation tokens tree}.Infinite :=
    htree.infinite hrule hhead hcycle
  exact ⟨chart, _, h.recognize_eq, h.accepting_eq,
    h.filled.exists_infinite_unfolds rfl hinfinite⟩

/-- The arena holds each tiling of the symbols left of a dot exactly once, and there is one tree for
    each tiling of the whole input by a start rule. -/
theorem mem_arena_iff_tiles (g : Grammar T N H) (options : ParserOptions) (tokens : Array Tok) :
    ∃ chart trees packings,
      (Parser.mk g { options with ambiguity := .merge }).recognize tokens = .ok chart ∧
      (∀ id dot origin stop slots, ⟨id, dot, origin, stop, slots⟩ ∈ chart.arena ↔
        chart.HasSlot origin ⟨id, 0, origin⟩ ∧ ∃ rule, g.rules[id]? = some rule ∧
          dot ≤ rule.length ∧
          chart.Tiles g tokens (rule.production.take dot) origin stop slots) ∧
      chart.arena.toList.Nodup ∧
      (Parser.mk g { options with ambiguity := .merge }).parse tokens = .ok trees ∧
      packings.Nodup ∧
      (∀ id slots, (id, slots) ∈ packings ↔ ∃ rule, g.rules[id]? = some rule ∧
        rule.head = g.start ∧ chart.Tiles g tokens rule.production 0 tokens.size slots) ∧
      List.Forall₂ (fun packing tree => ∃ id, chart.Packs g tokens.size id packing ∧
        Tree.build g chart id = .ok tree) packings trees := by
  obtain ⟨chart, trees, h⟩ := exists_results ⟨g, { options with ambiguity := .merge }⟩ tokens
  obtain ⟨packings, hpackings, hnodup, hmem⟩ := h.filled.exists_packings rfl
  have hbuilds : List.Forall₂ (fun id tree => Tree.build g chart id = .ok tree)
      (chart.acceptingIds g) trees :=
    h.shows.imp fun _ _ => Tree.build_eq_ok h.filled.backpointers_lt
  exact ⟨chart, trees, packings, h.recognize_eq, fun _ _ _ _ _ => h.filled.mem_arena_iff rfl,
    h.filled.wellFormed.arena_nodup, h.parse_eq, hnodup, hmem,
    forall₂_of_common hpackings hbuilds⟩

end Earley.Parser
