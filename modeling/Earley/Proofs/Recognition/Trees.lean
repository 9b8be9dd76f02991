import Earley.Proofs.Recognition.Accepting
import Earley.Proofs.Tree.Build
import Earley.Proofs.Tree.Derivation

/-!
# Trees of a filled chart

The builder follows backpointers without looking at what they lead to. On a filled chart they lead to
slots that tile the input, so what fits an item derives what the item covers.
-/

namespace Earley.Recognition.Filled

variable {T N H Tok : Type} [DecidableEq N] [Terminal T Tok] {r : Recognition T N H Tok}
  {chart : Chart} (h : r.Filled chart)
include h

theorem derive_of_fits {symbols : List (Symbol T N)} {slots : List ItemId} {i k : Nat}
    {children : List (Tree T N H)} (hfits : Tree.Fits r.grammar chart symbols slots i children)
    (htiles : chart.Tiles r.grammar r.tokens symbols i k slots) :
    Tree.Derive r.grammar r.tokens symbols i k children := by
  induction hfits generalizing k with
  | nil =>
    cases htiles
    exact .nil _
  | terminal _ ih =>
    cases htiles with
    | terminal hadmits hrest => exact .terminal hadmits (ih hrest)
  | missing => cases htiles
  | child hitem hrule _ _ ihbelow ihrest =>
    cases htiles with
    | nonterminal hslot hrest =>
      obtain ⟨_, hfound, rfl, rfl, rfl, hproduction⟩ :=
        h.tiles_of_finishedSlot hslot List.mem_cons_self hitem
      rw [hrule] at hfound
      cases hfound
      exact .nonterminal (Array.mem_of_getElem? hrule) (ihbelow hproduction) (ihrest hrest)

/-- The tree of an accepting item derives the input from the start symbol. -/
theorem derive_of_shows {id : ItemId} {tree : Tree T N H}
    (hid : id ∈ chart.acceptingIds r.grammar) (hshows : Tree.Shows r.grammar chart id tree) :
    Tree.Derive r.grammar r.tokens [.nonterminal r.grammar.start] 0 r.tokens.size [tree] := by
  obtain ⟨item, rule, children, hitem, hrule, hfits, rfl⟩ := hshows
  obtain ⟨_, _, hfound, hfoundRule, hhead, _, horigin, hstop, htiles⟩ :=
    h.tiles_of_mem_acceptingIds hid
  rw [hitem] at hfound
  cases hfound
  rw [hrule] at hfoundRule
  cases hfoundRule
  rw [horigin] at hfits
  rw [horigin, hstop, ← hhead]
  exact .nonterminal (Array.mem_of_getElem? hrule) (h.derive_of_fits hfits htiles) (.nil _)

end Earley.Recognition.Filled
