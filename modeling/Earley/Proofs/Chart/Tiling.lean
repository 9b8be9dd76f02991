import Earley.Proofs.Chart.Add
import Earley.Proofs.Grammar.Derivation
import Earley.Recognition.Yield

/-!
# Tilings

What stands left of an item's dot covers a stretch of the input without gaps: a terminal covers one
token that it admits, and a nonterminal covers what a finished slot of it covers. The slots used, from
left to right, are the backpointers of the item.
-/

namespace Earley

variable {T N H Tok : Type} [DecidableEq N]

namespace Item

/-- The symbol after the dot. -/
def Expects (item : Item) (g : Grammar T N H) (symbol : Symbol T N) : Prop :=
  ∃ rule, g.rules[item.rule]? = some rule ∧ rule.symbol? item.dot = some symbol

/-- The dot is at the end of a rule of `head`. -/
def Finishes (item : Item) (g : Grammar T N H) (head : N) : Prop :=
  ∃ rule, g.rules[item.rule]? = some rule ∧ rule.head = head ∧ rule.length ≤ item.dot

variable {item other : Item} {g : Grammar T N H}

theorem Expects.of_key_eq {symbol : Symbol T N} (h : item.Expects g symbol)
    (hkey : other.key = item.key) : other.Expects g symbol := by
  obtain ⟨rule, hrule, hsymbol⟩ := h
  simp only [key, ItemKey.mk.injEq] at hkey
  exact ⟨rule, by rw [hkey.1, hrule], by rw [hkey.2.1, hsymbol]⟩

theorem Finishes.of_key_eq {head : N} (h : item.Finishes g head) (hkey : other.key = item.key) :
    other.Finishes g head := by
  obtain ⟨rule, hrule, hhead, hdot⟩ := h
  simp only [key, ItemKey.mk.injEq] at hkey
  exact ⟨rule, by rw [hkey.1, hrule], hhead, by rw [hkey.2.1]; exact hdot⟩

theorem expects_congr {symbol : Symbol T N} (hkey : item.key = other.key) :
    item.Expects g symbol ↔ other.Expects g symbol :=
  ⟨fun h => h.of_key_eq hkey.symm, fun h => h.of_key_eq hkey⟩

theorem finishes_of_key_eq {id : RuleId} {rule : Rule T N H} {origin : Nat}
    (hrule : g.rules[id]? = some rule) (hkey : item.key = ⟨id, rule.length, origin⟩) :
    item.Finishes g rule.head := by
  simp only [key, ItemKey.mk.injEq] at hkey
  exact ⟨rule, hkey.1 ▸ hrule, rfl, Nat.le_of_eq hkey.2.1.symm⟩

theorem Expects.unique {symbol symbol' : Symbol T N} (h : item.Expects g symbol)
    (h' : item.Expects g symbol') : symbol = symbol' := by
  obtain ⟨rule, hrule, hsymbol⟩ := h
  obtain ⟨rule', hrule', hsymbol'⟩ := h'
  rw [hrule] at hrule'
  cases hrule'
  rw [hsymbol] at hsymbol'
  exact Option.some.inj hsymbol'

theorem Finishes.unique {head head' : N} (h : item.Finishes g head)
    (h' : item.Finishes g head') : head = head' := by
  obtain ⟨rule, hrule, rfl, _⟩ := h
  obtain ⟨rule', hrule', rfl, _⟩ := h'
  rw [hrule] at hrule'
  cases hrule'
  rfl

theorem Expects.not_finishes {symbol : Symbol T N} {head : N} (h : item.Expects g symbol) :
    ¬ item.Finishes g head := by
  rintro ⟨rule, hrule, _, hdot⟩
  obtain ⟨rule', hrule', hsymbol⟩ := h
  rw [hrule] at hrule'
  cases hrule'
  have hlt := (List.getElem?_eq_some_iff.1 hsymbol).1
  have hle : rule.production.length ≤ item.dot := hdot
  omega

theorem expects_of_drop (item : Item) {rule : Rule T N H} {symbol : Symbol T N}
    {symbols : List (Symbol T N)} (hrule : g.rules[item.rule]? = some rule)
    (hdrop : rule.production.drop item.dot = symbol :: symbols) :
    item.Expects g symbol ∧ rule.production.drop (item.dot + 1) = symbols := by
  constructor
  · refine ⟨rule, hrule, ?_⟩
    rw [Rule.symbol?, ← List.head?_drop, hdrop, List.head?_cons]
  · rw [← List.tail_drop, hdrop, List.tail_cons]

/-- The dot of an item of a rule stands before a symbol or at the end. -/
theorem expects_or_finishes {rule : Rule T N H} (hrule : g.rules[item.rule]? = some rule) :
    (∃ symbol, item.Expects g symbol) ∨ item.Finishes g rule.head := by
  cases hsymbol : rule.symbol? item.dot with
  | some symbol => exact .inl ⟨symbol, rule, hrule, hsymbol⟩
  | none => exact .inr ⟨rule, hrule, rfl, List.getElem?_eq_none_iff.1 hsymbol⟩

end Item

namespace Chart

/-- The slot names a finished item of a rule of `n` that covers the tokens from `i` up to `j`. -/
def FinishedSlot (chart : Chart) (g : Grammar T N H) (n : N) (i j : Nat) (id : ItemId) : Prop :=
  id ∈ chart.slotsAt j ∧ ∃ item, chart.arena[id]? = some item ∧ item.origin = i ∧
    item.Finishes g n

theorem FinishedSlot.mono {chart chart' : Chart} {g : Grammar T N H} {n : N} {i j : Nat}
    {id : ItemId} (h : chart.FinishedSlot g n i j id) (hextends : chart'.Extends chart) :
    chart'.FinishedSlot g n i j id := by
  obtain ⟨hmem, item, hitem, horigin, hfinishes⟩ := h
  exact ⟨hextends.slotsAt hmem, item, hextends.arena hitem, horigin, hfinishes⟩

/-- An old slot is finished in a longer chart only if it was finished before. -/
theorem FinishedSlot.of_extends {chart chart' : Chart} {g : Grammar T N H} {n : N} {i j : Nat}
    {id : ItemId} (h : chart'.FinishedSlot g n i j id) (hwf : chart.WellFormed)
    (hextends : chart'.Extends chart) (hmem : id ∈ chart.slotsAt j) :
    chart.FinishedSlot g n i j id := by
  obtain ⟨_, item, hitem, horigin, hfinishes⟩ := h
  obtain ⟨found, hfound, _⟩ := hwf.slot_item hmem
  rw [hextends.arena hfound] at hitem
  cases hitem
  exact ⟨hmem, _, hfound, horigin, hfinishes⟩

theorem FinishedSlot.lt_size {chart : Chart} {g : Grammar T N H} {n : N} {i j : Nat}
    {id : ItemId} (h : chart.FinishedSlot g n i j id) : id < chart.arena.size := by
  obtain ⟨_, item, hitem, _⟩ := h
  exact lt_size_of_getElem? hitem

variable [Terminal T Tok]

/-- The symbols cover the tokens from `i` up to `k`, the nonterminals by these slots. -/
inductive Tiles (chart : Chart) (g : Grammar T N H) (tokens : Array Tok) :
    List (Symbol T N) → Nat → Nat → List ItemId → Prop where
  | nil (i : Nat) : Tiles chart g tokens [] i i []
  | terminal {t : T} {symbols : List (Symbol T N)} {i k : Nat} {slots : List ItemId}
      (hadmits : AdmitsAt tokens i t) (hrest : Tiles chart g tokens symbols (i + 1) k slots) :
      Tiles chart g tokens (.terminal t :: symbols) i k slots
  | nonterminal {n : N} {symbols : List (Symbol T N)} {i j k : Nat} {slot : ItemId}
      {slots : List ItemId} (hslot : chart.FinishedSlot g n i j slot)
      (hrest : Tiles chart g tokens symbols j k slots) :
      Tiles chart g tokens (.nonterminal n :: symbols) i k (slot :: slots)

namespace Tiles

variable {chart chart' : Chart} {g : Grammar T N H} {tokens : Array Tok}
  {symbols first second : List (Symbol T N)} {i j k : Nat} {slots others : List ItemId}

theorem mono (h : chart.Tiles g tokens symbols i k slots) (hextends : chart'.Extends chart) :
    chart'.Tiles g tokens symbols i k slots := by
  induction h with
  | nil i => exact .nil i
  | terminal hadmits _ ih => exact .terminal hadmits ih
  | nonterminal hslot _ ih => exact .nonterminal (hslot.mono hextends) ih

theorem append (h : chart.Tiles g tokens first i j slots)
    (h' : chart.Tiles g tokens second j k others) :
    chart.Tiles g tokens (first ++ second) i k (slots ++ others) := by
  induction h with
  | nil => exact h'
  | terminal hadmits _ ih => exact .terminal hadmits (ih h')
  | nonterminal hslot _ ih => exact .nonterminal hslot (ih h')

theorem exists_of_append (h : chart.Tiles g tokens (first ++ second) i k slots) :
    ∃ j front back, slots = front ++ back ∧ chart.Tiles g tokens first i j front ∧
      chart.Tiles g tokens second j k back := by
  induction first generalizing i slots with
  | nil => exact ⟨i, [], slots, rfl, .nil i, h⟩
  | cons symbol first ih =>
    rw [List.cons_append] at h
    cases h with
    | terminal hadmits hrest =>
      obtain ⟨j, front, back, rfl, hfront, hback⟩ := ih hrest
      exact ⟨j, front, back, rfl, .terminal hadmits hfront, hback⟩
    | nonterminal hslot hrest =>
      obtain ⟨j, front, back, rfl, hfront, hback⟩ := ih hrest
      exact ⟨j, _ :: front, back, rfl, .nonterminal hslot hfront, hback⟩

/-- There is one slot for each nonterminal, in the same order. -/
theorem forall₂_finishedSlot (h : chart.Tiles g tokens symbols i k slots) :
    List.Forall₂ (fun n slot => ∃ i j, chart.FinishedSlot g n i j slot)
      (symbols.filterMap Symbol.nonterminal?) slots := by
  induction h with
  | nil => exact .nil
  | terminal _ _ ih => exact ih
  | nonterminal hslot _ ih => exact .cons ⟨_, _, hslot⟩ ih

/-- The slots of a tiling are in the chart. -/
theorem lt_size (h : chart.Tiles g tokens symbols i k slots) {slot : ItemId}
    (hmem : slot ∈ slots) : slot < chart.arena.size := by
  induction h with
  | nil => cases hmem
  | terminal _ _ ih => exact ih hmem
  | nonterminal hslot _ ih =>
    rcases List.mem_cons.1 hmem with rfl | hmem
    · exact hslot.lt_size
    · exact ih hmem

end Tiles

end Chart

end Earley
