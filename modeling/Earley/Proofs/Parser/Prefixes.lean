import Earley.Proofs.Parser.Results
import Earley.Proofs.Recognition.Truncation

/-!
# Later tokens

What stands behind a position of the input has no say in the columns before it, and none in the keys of the
column at the position. So each column of a chart tells whether the tokens before it are accepted.
-/

namespace Earley

/-- The column at a position has a finished slot of a nonterminal that begins with the input. -/
def Chart.Completed {T N H : Type} [DecidableEq N] (chart : Chart) (g : Grammar T N H) (n : N)
    (position : Nat) : Prop :=
  ∃ slot, chart.FinishedSlot g n 0 position slot

theorem Chart.Completed.of_keysAt_eq {T N H : Type} [DecidableEq N] {chart other : Chart}
    {g : Grammar T N H} {n : N} {position : Nat} (h : chart.Completed g n position)
    (hkeys : chart.keysAt position = other.keysAt position) : other.Completed g n position := by
  obtain ⟨slot, hslot, item, hitem, horigin, hfinishes⟩ := h
  have hmem := Chart.mem_keysAt_iff.2 ⟨slot, hslot, item, hitem, rfl⟩
  rw [hkeys] at hmem
  obtain ⟨slot', hslot', item', hitem', hkey⟩ := Chart.mem_keysAt_iff.1 hmem
  have horigin' : item'.origin = item.origin := congrArg ItemKey.origin hkey
  exact ⟨slot', hslot', item', hitem', horigin'.trans horigin, hfinishes.of_key_eq hkey⟩

/-- An input is accepted if the last column completes the start symbol. -/
theorem Recognition.Filled.acceptingIds_ne_nil_iff_completed {T N H Tok : Type} [DecidableEq N]
    [Terminal T Tok] {r : Recognition T N H Tok} {chart : Chart} (h : r.Filled chart) :
    chart.acceptingIds r.grammar ≠ [] ↔ chart.Completed r.grammar r.grammar.start r.tokens.size := by
  constructor
  · intro hne
    obtain ⟨id, hid⟩ := List.exists_mem_of_ne_nil _ hne
    obtain ⟨item, hitem, horigin, hstop, hfinishes⟩ := h.mem_acceptingIds_iff.1 hid
    obtain ⟨slot, first, _, hslot, hfirst, hkey, _⟩ :=
      h.wellFormed.exists_slot (Array.mem_of_getElem? hitem)
    have horigin' : first.origin = item.origin := congrArg ItemKey.origin hkey
    rw [hstop] at hslot
    exact ⟨slot, hslot, first, hfirst, horigin'.trans horigin, hfinishes.of_key_eq hkey⟩
  · rintro ⟨slot, hslot, item, hitem, horigin, hfinishes⟩
    have hstop := h.wellFormed.stop_of_mem_slotsAt hslot hitem
    exact List.ne_nil_of_mem (h.mem_acceptingIds_iff.2 ⟨item, hitem, horigin, hstop, hfinishes⟩)

namespace Parser

variable {T N H Tok : Type} [DecidableEq N] [Terminal T Tok]

/-- Inputs that begin with the same tokens have the same columns before the end of these tokens, and there
    a column with the same keys in the same order. It completes the start symbol if and only if these tokens
    are accepted. -/
theorem columns_of_common_tokens (p : Parser T N H) (tokens other : Array Tok) (count : Nat)
    (hsize : count ≤ tokens.size) (hsize' : count ≤ other.size)
    (hcommon : tokens.extract 0 count = other.extract 0 count) :
    ∃ chart chart' accepted, p.recognize tokens = .ok chart ∧ p.recognize other = .ok chart' ∧
      p.accepts (tokens.extract 0 count) = .ok accepted ∧
      chart.SharesColumns chart' count ∧ chart.keysAt count = chart'.keysAt count ∧
      (accepted = true ↔ chart.Completed p.grammar p.grammar.start count) := by
  obtain ⟨chart, _, h⟩ := p.exists_results tokens
  obtain ⟨chart', _, h'⟩ := p.exists_results other
  obtain ⟨shorter, _, hshorter⟩ := p.exists_results (tokens.extract 0 count)
  have hcut : (p.recognition tokens).truncate count = p.recognition (tokens.extract 0 count) := rfl
  have hcut' : (p.recognition other).truncate count = p.recognition (tokens.extract 0 count) := by
    rw [hcommon]
    rfl
  have hchart : ((p.recognition tokens).truncate count).chart = .ok shorter :=
    hcut ▸ hshorter.recognize_eq
  have hchart' : ((p.recognition other).truncate count).chart = .ok shorter :=
    hcut' ▸ hshorter.recognize_eq
  have hshares := Recognition.sharesColumns_truncate hsize h.recognize_eq hchart
  have hshares' := Recognition.sharesColumns_truncate hsize' h'.recognize_eq hchart'
  have hkeys := Recognition.keysAt_truncate hsize h.recognize_eq hchart
  have hkeys' := Recognition.keysAt_truncate hsize' h'.recognize_eq hchart'
  refine ⟨chart, chart', _, h.recognize_eq, h'.recognize_eq, hshorter.accepts_eq,
    hshares.trans hshares'.symm, hkeys.symm.trans hkeys', ?_⟩
  have hcount : (p.recognition (tokens.extract 0 count)).tokens.size = count :=
    (p.recognition tokens).size_truncate hsize
  have haccepts : shorter.acceptingIds p.grammar ≠ [] ↔ _ :=
    hshorter.filled.acceptingIds_ne_nil_iff_completed
  rw [hcount] at haccepts
  rw [Bool.not_eq_true', List.isEmpty_eq_false_iff, haccepts]
  exact ⟨fun hcompleted => hcompleted.of_keysAt_eq hkeys,
    fun hcompleted => hcompleted.of_keysAt_eq hkeys.symm⟩

/-- A parser for `S → S S` and `S → 'x'`. -/
def doubling : Parser Char Char Unit where
  grammar := ⟨#[⟨'S', [.nonterminal 'S', .nonterminal 'S'], none, none⟩,
    ⟨'S', [.terminal 'x'], none, none⟩], 'S', [('S', [0, 1])], by decide, by decide⟩
  options := {}

/-- Whether a second token follows that the grammar admits makes no difference up to the first. -/
theorem columns_of_common_tokens_doubling :
    1 ≤ #['x', 'x'].size ∧ 1 ≤ #['x', 'y'].size ∧
      #['x', 'x'].extract 0 1 = #['x', 'y'].extract 0 1 ∧
      ∃ chart chart' accepted, doubling.recognize #['x', 'x'] = .ok chart ∧
        doubling.recognize #['x', 'y'] = .ok chart' ∧
        doubling.accepts (#['x', 'x'].extract 0 1) = .ok accepted ∧
        chart.SharesColumns chart' 1 ∧ chart.keysAt 1 = chart'.keysAt 1 ∧
        (accepted = true ↔ chart.Completed doubling.grammar 'S' 1) :=
  have hcommon : #['x', 'x'].extract 0 1 = #['x', 'y'].extract 0 1 := by decide
  ⟨by decide, by decide, hcommon,
    columns_of_common_tokens doubling #['x', 'x'] #['x', 'y'] 1 (by decide) (by decide) hcommon⟩

end Parser

end Earley
