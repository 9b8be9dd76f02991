import Earley.Proofs.Parser.Results
import Earley.Proofs.Recognition.Lockstep
import Earley.Proofs.Tree.Erasure
import Earley.Proofs.Tree.Renumbering

/-!
# Rules that are never used

Rules of nonterminals that the start symbol does not lead to make no difference to a parser, wherever they
are inserted.
-/

namespace Earley

/-- Recognitions whose grammars differ in unreachable rules only are in lockstep. -/
theorem Grammar.PadsTo.exists_parallel {T N H Tok : Type} [DecidableEq N] {g g' : Grammar T N H}
    (h : g.PadsTo g') (tokens : Array Tok) (policy : AmbiguityPolicy) (limit : Nat) :
    ∃ renumber : RuleId → RuleId, StrictMono renumber ∧
      Recognition.Parallel ⟨g, tokens, policy⟩ ⟨g', tokens, policy⟩ renumber limit := by
  obtain ⟨renumber, hmono, hrules, hrulesFor⟩ := h.exists_renumber
  exact ⟨renumber, hmono, ⟨h.start_eq, hmono.injective, hrules⟩, rfl, hrulesFor, fun _ _ => rfl⟩

namespace Parser

variable {T N H Tok : Type} [DecidableEq N] [Terminal T Tok]

/-- With unreachable rules inserted anywhere, the chart of an input is the same but for the numbers of the
    rules, which keep their order, and the parse is the same list of trees. -/
theorem unreachable_rules_change_nothing (g g' : Grammar T N H) (options : ParserOptions)
    (tokens : Array Tok) (hpads : g.PadsTo g') :
    ∃ renumber chart chart' trees, StrictMono renumber ∧
      (∀ id : RuleId, g'.rules[renumber id]? = g.rules[id]?) ∧
      (Parser.mk g options).recognize tokens = .ok chart ∧
      (Parser.mk g' options).recognize tokens = .ok chart' ∧
      chart'.columns.size = chart.columns.size ∧
      chart.RenumbersTo chart' renumber chart.columns.size ∧
      (Parser.mk g options).parse tokens = .ok trees ∧
      (Parser.mk g' options).parse tokens = .ok trees := by
  obtain ⟨renumber, hmono, hparallel⟩ := hpads.exists_parallel tokens options.ambiguity (tokens.size + 1)
  obtain ⟨chart, chart', hchart, hchart', hrenumbers⟩ := hparallel.exists_chart
  obtain ⟨found, trees, h⟩ := exists_results ⟨g, options⟩ tokens
  obtain ⟨found', trees', h'⟩ := exists_results ⟨g', options⟩ tokens
  have hfound := h.recognize_eq.symm.trans hchart
  have hfound' := h'.recognize_eq.symm.trans hchart'
  cases hfound
  cases hfound'
  have hcolumns : chart.columns.size = tokens.size + 1 := h.filled.size_columns
  have hcolumns' : chart'.columns.size = tokens.size + 1 := h'.filled.size_columns
  have hlength : chart.inputLength = tokens.size := h.filled.inputLength_eq
  have hlength' : chart'.inputLength = tokens.size := h'.filled.inputLength_eq
  have hids := hrenumbers.acceptingIds_eq hparallel.rule_eq hparallel.start_eq
    (hlength'.trans hlength.symm) (hlength ▸ Nat.le_succ _)
  have hshows : List.Forall₂ (Tree.Shows g' chart') (chart'.acceptingIds g') trees := by
    rw [hids]
    exact h.shows.imp fun _ _ => Tree.Shows.of_renumbersTo hparallel.rule_eq hrenumbers
  have hunique : Relator.RightUnique (Tree.Shows g' chart') := fun _ _ _ hshows hshows' =>
    hshows.unique h'.filled.backpointers_lt hshows'
  refine ⟨renumber, chart, chart', trees, hmono, hparallel.rule_eq, hchart, hchart',
    hcolumns'.trans hcolumns.symm, hcolumns ▸ hrenumbers, h.parse_eq, ?_⟩
  rw [h'.parse_eq, hunique.forall₂ h'.shows hshows]

/-- The grammar of `S → 'x'`, where `S` is `true`. -/
def letter : Grammar Char Bool Unit :=
  ⟨#[⟨true, [.terminal 'x'], none, none⟩], true, [(true, [0])], by decide, by decide⟩

/-- The same grammar with two rules of another nonterminal, one of them in front. -/
def paddedLetter : Grammar Char Bool Unit :=
  ⟨#[⟨false, [.nonterminal true], none, none⟩, ⟨true, [.terminal 'x'], none, none⟩,
    ⟨false, [], none, none⟩], true, [(false, [0, 2]), (true, [1])], by decide, by decide⟩

theorem letter_padsTo_paddedLetter : letter.PadsTo paddedLetter where
  start_eq := rfl
  rules := by
    have hunreached : ¬ letter.Reaches false := fun hreaches => by
      have hmem : false ∈ [true] := hreaches.mem_of_closed (by decide) (by decide)
      cases hmem with
      | tail _ hmem => cases hmem
    exact .insert hunreached (.keep _ (.insert hunreached .nil))

/-- The letter is parsed by both grammars alike. -/
theorem unreachable_rules_change_nothing_letter :
    letter.PadsTo paddedLetter ∧
      ∃ renumber chart chart' trees, StrictMono renumber ∧
        (∀ id : RuleId, paddedLetter.rules[renumber id]? = letter.rules[id]?) ∧
        (Parser.mk letter {}).recognize #['x'] = .ok chart ∧
        (Parser.mk paddedLetter {}).recognize #['x'] = .ok chart' ∧
        chart'.columns.size = chart.columns.size ∧
        chart.RenumbersTo chart' renumber chart.columns.size ∧
        (Parser.mk letter {}).parse #['x'] = .ok trees ∧
        (Parser.mk paddedLetter {}).parse #['x'] = .ok trees :=
  ⟨letter_padsTo_paddedLetter,
    unreachable_rules_change_nothing letter paddedLetter {} #['x'] letter_padsTo_paddedLetter⟩

end Parser

end Earley
