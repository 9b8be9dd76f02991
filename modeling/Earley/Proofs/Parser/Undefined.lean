import Earley.Parser.Basic
import Earley.Proofs.Grammar.Undefined
import Earley.Proofs.Recognition.Filled

/-!
# Parsers that refuse undefined nonterminals

The problems of a grammar are its undefined references. A parser that refuses grammars with problems can
be made of exactly those grammars in which each nonterminal of each production heads a rule, and then
every prediction finds rules.
-/

namespace Earley

namespace Recognition

variable {T N H Tok : Type} [DecidableEq N] [Terminal T Tok] {r : Recognition T N H Tok} {s : State N}

/-- Taking up a slot that expects a nonterminal predicts the rules of it, ahead of anything else. -/
theorem Reachable.step_of_expects_nonterminal (hs : r.Reachable s) (hagenda : s.agenda = [])
    {slot : ItemId} (hslot : (s.chart.slotsAt s.position)[s.cursor]? = some slot) {item : Item}
    (hitem : s.chart.arena[slot]? = some item) {n : N}
    (hexpects : item.Expects r.grammar (.nonterminal n)) :
    ∃ others, r.step s = .ok (.running ⟨s.chart, s.position, s.cursor + 1, some slot, s.nullable,
      (r.grammar.rulesFor n).map (Item.predicted · s.position) ++ others⟩) := by
  have hsound := hs.invariant.sound
  exact ⟨_, step_of_slot hsound hagenda hslot
    (r.yield_of_expects_nonterminal hsound.wellFormed (List.mem_of_getElem? hslot) hitem hexpects)⟩

end Recognition

namespace Parser

variable {T N H : Type} [DecidableEq N] [Nonterminal N]

/-- A grammar with problems is refused, with the messages of all of them. -/
theorem create_reject_eq (g : Grammar T N H) (ambiguity : AmbiguityPolicy) :
    create g ⟨ambiguity, .reject⟩ =
      if g.undefinedReferences = [] then .ok ⟨g, ⟨ambiguity, .reject⟩⟩
      else .error (.grammarValidationFailed
        (", ".intercalate (g.undefinedNonterminals.map GrammarError.message))) := by
  unfold create Grammar.undefinedNonterminals
  cases g.undefinedReferences with
  | nil => rfl
  | cons reference references => rfl

theorem create_reject_eq_ok_iff {g : Grammar T N H} {ambiguity : AmbiguityPolicy}
    {p : Parser T N H} :
    create g ⟨ambiguity, .reject⟩ = .ok p ↔
      g.undefinedReferences = [] ∧ p = ⟨g, ⟨ambiguity, .reject⟩⟩ := by
  rw [create_reject_eq]
  split_ifs with hnone
  · simp [hnone, eq_comm]
  · simp [hnone]

/-- Problems are the undefined references, one each and in the order in which rules make them. Where they
    are refused, a parser is made of a grammar exactly if it has none, and all its predictions find
    rules. -/
theorem undefined_references_reported_exactly {Tok : Type} [Terminal T Tok] (g : Grammar T N H) :
    (∃ references : List (N × N),
      g.undefinedNonterminals = references.map (fun reference => .undefinedNonterminal
        (Nonterminal.name reference.1) (Nonterminal.name reference.2)) ∧
      references.Nodup ∧
      (∀ head n, (head, n) ∈ references ↔
        (∃ rule ∈ g.rules, rule.head = head ∧ .nonterminal n ∈ rule.production) ∧
          ∀ rule ∈ g.rules, rule.head ≠ n) ∧
      references.Pairwise fun reference later => ∃ place, g.NamesAt reference place ∧
        ∀ place', g.NamesAt later place' → Prod.Lex (· < ·) (· < ·) place place') ∧
    ∀ ambiguity,
      ((∃ p, create g ⟨ambiguity, .reject⟩ = .ok p) ↔
        ∀ rule ∈ g.rules, ∀ n, .nonterminal n ∈ rule.production →
          ∃ other ∈ g.rules, other.head = n) ∧
      ∀ p, create g ⟨ambiguity, .reject⟩ = .ok p →
        p.grammar = g ∧ ∀ (tokens : Array Tok) s, (p.recognition tokens).Reachable s →
          ∀ slot item n, s.agenda = [] → (s.chart.slotsAt s.position)[s.cursor]? = some slot →
            s.chart.arena[slot]? = some item → item.Expects p.grammar (.nonterminal n) →
            g.rulesFor n ≠ [] ∧ ∃ others, (p.recognition tokens).step s =
              .ok (.running ⟨s.chart, s.position, s.cursor + 1, some slot, s.nullable,
                (g.rulesFor n).map (Item.predicted · s.position) ++ others⟩) := by
  refine ⟨⟨g.undefinedReferences, rfl, ?_, fun head n => ?_, ?_⟩, fun ambiguity => ⟨?_, ?_⟩⟩
  · exact Grammar.pairwise_undefinedReferences.imp And.left
  · rw [Grammar.mem_undefinedReferences_iff, Grammar.exists_namesAt_iff]
  · exact Grammar.pairwise_undefinedReferences.imp And.right
  · rw [← Grammar.undefinedReferences_eq_nil_iff]
    simp only [create_reject_eq_ok_iff, exists_and_left, exists_eq, and_true]
  · intro p hp
    obtain ⟨hnone, rfl⟩ := create_reject_eq_ok_iff.1 hp
    refine ⟨rfl, fun tokens s hs slot item n hagenda hslot hitem hexpects => ⟨?_, ?_⟩⟩
    · obtain ⟨rule, hrule, hsymbol⟩ := hexpects
      obtain ⟨other, hother, hhead⟩ := Grammar.undefinedReferences_eq_nil_iff.1 hnone rule
        (Array.mem_of_getElem? hrule) n (List.mem_of_getElem? hsymbol)
      obtain ⟨id, hid⟩ := Array.mem_iff_getElem?.1 hother
      exact List.ne_nil_of_mem (g.mem_rulesFor_iff.2 ⟨other, hid, hhead⟩)
    · exact hs.step_of_expects_nonterminal hagenda hslot hitem hexpects

end Parser

end Earley
