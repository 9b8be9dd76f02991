import Earley.Proofs.Chart.Tiling
import Earley.Proofs.Grammar.Index
import Earley.Recognition.Step

/-!
# What slots and late alternatives yield

On a well-formed chart whose items belong to rules of the grammar, taking up a slot does not fail.
The items it yields are predictions, continuations of the derivations of the slot, or continuations of
those that wait for it.
-/

namespace Earley

variable {T N H Tok : Type} [DecidableEq N]

namespace Chart

/-- Every item belongs to a rule of the grammar. -/
def Ruled (chart : Chart) (g : Grammar T N H) : Prop :=
  ∀ item ∈ chart.arena, ∃ rule, g.rules[item.rule]? = some rule

/-- The items of a slot and of its alternatives. -/
def itemsOf (chart : Chart) (position : Nat) (slot : ItemId) : List Item :=
  (slot :: chart.alternativesAt position slot).filterMap (chart.arena[·]?)

/-- Whether the symbol after the dot of an item is the nonterminal `head`. -/
def waitsFor (chart : Chart) (g : Grammar T N H) (head : N) (id : ItemId) : Bool :=
  match chart.arena[id]? with
  | some item =>
    match g.rules[item.rule]? with
    | some rule => (rule.symbol? item.dot).bind Symbol.nonterminal? = some head
    | none => false
  | none => false

/-- The items at a position that wait for `head`. -/
def parents (chart : Chart) (g : Grammar T N H) (position : Nat) (head : N) : List Item :=
  ((chart.slotsAt position).filter (chart.waitsFor g head)).flatMap (chart.itemsOf position)

variable {chart : Chart} {g : Grammar T N H} {position : Nat} {head : N}

theorem waitsFor_iff {id : ItemId} {item : Item} (hitem : chart.arena[id]? = some item) :
    chart.waitsFor g head id = true ↔ item.Expects g (.nonterminal head) := by
  unfold waitsFor Item.Expects
  simp only [hitem]
  cases hrule : g.rules[item.rule]? with
  | none => simp
  | some rule =>
    cases hsymbol : rule.symbol? item.dot with
    | none => simp [hsymbol]
    | some symbol => cases symbol <;> simp [hsymbol, Symbol.nonterminal?]

theorem waitingSlots_eq_ok (hwf : chart.WellFormed) (hruled : chart.Ruled g)
    (hposition : position < chart.columns.size) :
    chart.waitingSlots g position head =
      .ok ((chart.slotsAt position).filter (chart.waitsFor g head)) := by
  have hcolumn := Array.getElem?_eq_getElem hposition
  refine bind_eq_ok_iff.2 ⟨_, column_eq_ok_iff.2 hcolumn, ?_⟩
  rw [slotsAt_of_column hcolumn]
  apply filterM_eq_ok_filter
  intro id hid
  rw [← slotsAt_of_column hcolumn] at hid
  obtain ⟨item, hitem, _⟩ := hwf.slot_item hid
  obtain ⟨rule, hrule⟩ := hruled item (Array.mem_of_getElem? hitem)
  refine bind_eq_ok_iff.2 ⟨item, item_eq_ok_iff.2 hitem, ?_⟩
  refine bind_eq_ok_iff.2 ⟨_, Item.next?_eq_ok_iff.2 ⟨rule, hrule, rfl⟩, ?_⟩
  simp only [waitsFor, hitem, hrule]
  rfl

theorem waiting_eq_ok (hwf : chart.WellFormed) (hruled : chart.Ruled g)
    (hposition : position < chart.columns.size) :
    chart.waiting g position head = .ok (chart.parents g position head) := by
  refine bind_eq_ok_iff.2 ⟨_, waitingSlots_eq_ok hwf hruled hposition, ?_⟩
  have hitems : ((chart.slotsAt position).filter (chart.waitsFor g head)).mapM
      chart.derivationItems =
      .ok (((chart.slotsAt position).filter (chart.waitsFor g head)).map
        (chart.itemsOf position)) := by
    rw [← List.filterMap_eq_map]
    apply mapM_eq_ok_filterMap
    intro slot hslot
    exact ⟨_, hwf.derivationItems_eq_ok (List.mem_of_mem_filter hslot), rfl⟩
  exact bind_eq_ok_iff.2 ⟨_, hitems, congrArg Except.ok List.flatMap_def.symm⟩

theorem mem_parents_iff (hwf : chart.WellFormed) {item : Item} :
    item ∈ chart.parents g position head ↔
      item ∈ chart.arena ∧ item.stop = position ∧ item.Expects g (.nonterminal head) := by
  unfold parents
  rw [List.mem_flatMap]
  constructor
  · rintro ⟨slot, hslot, hmem⟩
    obtain ⟨hslot, hwaits⟩ := List.mem_filter.1 hslot
    obtain ⟨first, hfirst, _⟩ := hwf.slot_item hslot
    obtain ⟨harena, hstop, hkey⟩ := (hwf.mem_derivationItems_iff hslot hfirst).1 hmem
    exact ⟨harena, hstop, ((waitsFor_iff hfirst).1 hwaits).of_key_eq hkey⟩
  · rintro ⟨harena, rfl, hexpects⟩
    obtain ⟨slot, first, _, hslot, hfirst, hkey, _⟩ := hwf.exists_slot harena
    have hwaits := (waitsFor_iff hfirst).2 (hexpects.of_key_eq hkey)
    exact ⟨slot, List.mem_filter.2 ⟨hslot, hwaits⟩,
      (hwf.mem_derivationItems_iff hslot hfirst).2 ⟨harena, rfl, hkey.symm⟩⟩

end Chart

namespace Recognition

variable [Terminal T Tok] (r : Recognition T N H Tok) {chart : Chart} {position : Nat}
  {nullable : List (N × ItemId)} {slot : ItemId} {item first : Item}

theorem admitsAt_iff {t : T} : r.admitsAt position t = true ↔ AdmitsAt r.tokens position t := by
  unfold admitsAt AdmitsAt
  cases r.tokens[position]? <;> simp

theorem mem_stepOver_iff {head : N} {other : Item} :
    other ∈ stepOver position nullable head item ↔
      ∃ id, (head, id) ∈ nullable ∧ other = item.advance position id := by
  unfold stepOver emptyDerivations
  simp only [List.map_map, List.mem_map, List.mem_filter, decide_eq_true_eq]
  constructor
  · rintro ⟨⟨name, id⟩, ⟨hmem, rfl⟩, rfl⟩
    exact ⟨id, hmem, rfl⟩
  · rintro ⟨id, hmem, rfl⟩
    exact ⟨(head, id), ⟨hmem, rfl⟩, rfl⟩

/-- An item continues another while these empty derivations are known: the dot has moved over the
    token at the position, or over an empty derivation. -/
def Continues (position : Nat) (nullable : List (N × ItemId)) (item other : Item) : Prop :=
  (∃ t, item.Expects r.grammar (.terminal t) ∧ AdmitsAt r.tokens position t ∧
    other = item.scan) ∨
  (∃ n id, item.Expects r.grammar (.nonterminal n) ∧ (n, id) ∈ nullable ∧
    other = item.advance position id)

section Continues

variable {r} {other : Item}

theorem continues_iff_of_terminal {t : T} (hexpects : item.Expects r.grammar (.terminal t)) :
    r.Continues position nullable item other ↔
      AdmitsAt r.tokens position t ∧ other = item.scan := by
  constructor
  · rintro (⟨t', hexpects', hadmits, hother⟩ | ⟨n, id, hexpects', _⟩)
    · cases hexpects.unique hexpects'
      exact ⟨hadmits, hother⟩
    · cases hexpects.unique hexpects'
  · rintro ⟨hadmits, hother⟩
    exact .inl ⟨t, hexpects, hadmits, hother⟩

theorem continues_iff_of_nonterminal {n : N}
    (hexpects : item.Expects r.grammar (.nonterminal n)) :
    r.Continues position nullable item other ↔
      ∃ id, (n, id) ∈ nullable ∧ other = item.advance position id := by
  constructor
  · rintro (⟨t, hexpects', _⟩ | ⟨n', id, hexpects', hid, hother⟩)
    · cases hexpects.unique hexpects'
    · cases hexpects.unique hexpects'
      exact ⟨id, hid, hother⟩
  · rintro ⟨id, hid, hother⟩
    exact .inr ⟨n, id, hexpects, hid, hother⟩

theorem not_continues_of_finishes {n : N} (hfinishes : item.Finishes r.grammar n) :
    ¬ r.Continues position nullable item other := by
  rintro (⟨t, hexpects, _⟩ | ⟨n', id, hexpects, _⟩)
  · exact hexpects.not_finishes hfinishes
  · exact hexpects.not_finishes hfinishes

end Continues

/-- The continuations of an item, in the order in which a late alternative is followed to them. -/
def continuations (position : Nat) (nullable : List (N × ItemId)) (item : Item) : List Item :=
  match (r.grammar.rules[item.rule]?).bind (·.symbol? item.dot) with
  | some (.nonterminal head) => stepOver position nullable head item
  | some (.terminal t) => if r.admitsAt position t then [item.scan] else []
  | none => []

section Continuations

variable {rule : Rule T N H} (hrule : r.grammar.rules[item.rule]? = some rule)
include hrule

theorem followUps_eq_ok (position : Nat) (nullable : List (N × ItemId)) :
    r.followUps position nullable item = .ok (r.continuations position nullable item) := by
  have hnext : item.next? r.grammar = .ok (rule.symbol? item.dot) :=
    Item.next?_eq_ok_iff.2 ⟨rule, hrule, rfl⟩
  unfold followUps continuations
  rw [hnext, hrule, Option.bind_some]
  rcases rule.symbol? item.dot with _ | ⟨t | n⟩ <;> rfl

theorem mem_continuations_iff {other : Item} :
    other ∈ r.continuations position nullable item ↔ r.Continues position nullable item other := by
  unfold continuations
  rw [hrule, Option.bind_some]
  rcases hsymbol : rule.symbol? item.dot with _ | ⟨t | n⟩
  · have hfinishes : item.Finishes r.grammar rule.head :=
      ⟨rule, hrule, rfl, List.getElem?_eq_none_iff.1 hsymbol⟩
    simp only [List.not_mem_nil, not_continues_of_finishes hfinishes]
  · rw [continues_iff_of_terminal ⟨rule, hrule, hsymbol⟩, ← r.admitsAt_iff]
    dsimp only
    split_ifs with hadmits <;> simp [hadmits]
  · rw [continues_iff_of_nonterminal ⟨rule, hrule, hsymbol⟩]
    exact mem_stepOver_iff

end Continuations

/-- An item arises when a slot of the item `first` is taken up. -/
inductive Arises (chart : Chart) (position : Nat) (nullable : List (N × ItemId)) (slot : ItemId)
    (first : Item) : Item → Prop where
  | predict {n : N} {id : RuleId} (hexpects : first.Expects r.grammar (.nonterminal n))
      (hid : id ∈ r.grammar.rulesFor n) :
      Arises chart position nullable slot first (.predicted id position)
  | proceed {item other : Item} (hitem : item ∈ chart.arena) (hstop : item.stop = position)
      (hkey : item.key = first.key) (hcontinues : r.Continues position nullable item other) :
      Arises chart position nullable slot first other
  | complete {n : N} {parent : Item} (hfinishes : first.Finishes r.grammar n)
      (hparent : parent ∈ chart.arena) (hstop : parent.stop = first.origin)
      (hexpects : parent.Expects r.grammar (.nonterminal n)) :
      Arises chart position nullable slot first (parent.advance position slot)

section Arises

variable {r} {other : Item}

theorem arises_iff_of_terminal {t : T} (hexpects : first.Expects r.grammar (.terminal t)) :
    r.Arises chart position nullable slot first other ↔ AdmitsAt r.tokens position t ∧
      ∃ item ∈ chart.arena, item.stop = position ∧ item.key = first.key ∧ item.scan = other := by
  constructor
  · intro h
    cases h with
    | predict hexpects' => cases hexpects.unique hexpects'
    | proceed hitem hstop hkey hcontinues =>
      obtain ⟨hadmits, rfl⟩ :=
        (continues_iff_of_terminal (hexpects.of_key_eq hkey)).1 hcontinues
      exact ⟨hadmits, _, hitem, hstop, hkey, rfl⟩
    | complete hfinishes => exact absurd hfinishes hexpects.not_finishes
  · rintro ⟨hadmits, item, hitem, hstop, hkey, rfl⟩
    exact .proceed hitem hstop hkey
      ((continues_iff_of_terminal (hexpects.of_key_eq hkey)).2 ⟨hadmits, rfl⟩)

theorem arises_iff_of_nonterminal {n : N}
    (hexpects : first.Expects r.grammar (.nonterminal n)) :
    r.Arises chart position nullable slot first other ↔
      (∃ id ∈ r.grammar.rulesFor n, Item.predicted id position = other) ∨
      ∃ item ∈ chart.arena, item.stop = position ∧ item.key = first.key ∧
        ∃ id, (n, id) ∈ nullable ∧ other = item.advance position id := by
  constructor
  · intro h
    cases h with
    | predict hexpects' hid =>
      cases hexpects.unique hexpects'
      exact .inl ⟨_, hid, rfl⟩
    | proceed hitem hstop hkey hcontinues =>
      have hmem := (continues_iff_of_nonterminal (hexpects.of_key_eq hkey)).1 hcontinues
      exact .inr ⟨_, hitem, hstop, hkey, hmem⟩
    | complete hfinishes => exact absurd hfinishes hexpects.not_finishes
  · rintro (⟨id, hid, rfl⟩ | ⟨item, hitem, hstop, hkey, hmem⟩)
    · exact .predict hexpects hid
    · exact .proceed hitem hstop hkey
        ((continues_iff_of_nonterminal (hexpects.of_key_eq hkey)).2 hmem)

theorem arises_iff_of_finishes {n : N} (hfinishes : first.Finishes r.grammar n) :
    r.Arises chart position nullable slot first other ↔
      ∃ parent, (parent ∈ chart.arena ∧ parent.stop = first.origin ∧
        parent.Expects r.grammar (.nonterminal n)) ∧ parent.advance position slot = other := by
  constructor
  · intro h
    cases h with
    | predict hexpects => exact absurd hfinishes hexpects.not_finishes
    | proceed _ _ hkey hcontinues =>
      exact absurd hcontinues (not_continues_of_finishes (hfinishes.of_key_eq hkey))
    | complete hfinishes' hparent hstop hexpects =>
      cases hfinishes.unique hfinishes'
      exact ⟨_, ⟨hparent, hstop, hexpects⟩, rfl⟩
  · rintro ⟨parent, ⟨hparent, hstop, hexpects⟩, rfl⟩
    exact .complete hfinishes hparent hstop hexpects

end Arises

section Yield

variable (hwf : chart.WellFormed) (hslot : slot ∈ chart.slotsAt position)
  (hfirst : chart.arena[slot]? = some first)
include hwf hslot hfirst

theorem yield_of_expects_nonterminal {n : N}
    (hexpects : first.Expects r.grammar (.nonterminal n)) :
    r.yield chart position nullable slot =
      .ok ((r.grammar.rulesFor n).map (Item.predicted · position) ++
        (chart.itemsOf position slot).flatMap (stepOver position nullable n), nullable) := by
  obtain ⟨rule, hrule, hsymbol⟩ := hexpects
  refine bind_eq_ok_iff.2 ⟨first, Chart.item_eq_ok_iff.2 hfirst, ?_⟩
  refine bind_eq_ok_iff.2 ⟨rule, Grammar.rule_eq_ok_iff.2 hrule, ?_⟩
  simp only [hsymbol]
  exact bind_eq_ok_iff.2 ⟨_, hwf.derivationItems_eq_ok hslot, rfl⟩

theorem yield_of_expects_terminal {t : T} (hexpects : first.Expects r.grammar (.terminal t)) :
    r.yield chart position nullable slot =
      .ok (if r.admitsAt position t then (chart.itemsOf position slot).map Item.scan else [],
        nullable) := by
  obtain ⟨rule, hrule, hsymbol⟩ := hexpects
  refine bind_eq_ok_iff.2 ⟨first, Chart.item_eq_ok_iff.2 hfirst, ?_⟩
  refine bind_eq_ok_iff.2 ⟨rule, Grammar.rule_eq_ok_iff.2 hrule, ?_⟩
  simp only [hsymbol]
  exact bind_eq_ok_iff.2 ⟨_, hwf.derivationItems_eq_ok hslot, rfl⟩

omit hslot in
theorem yield_of_finishes {n : N} (hruled : chart.Ruled r.grammar)
    (horigin : first.origin < chart.columns.size) (hfinishes : first.Finishes r.grammar n) :
    r.yield chart position nullable slot =
      .ok ((chart.parents r.grammar first.origin n).map (·.advance position slot),
        if first.origin = position then nullable ++ [(n, slot)] else nullable) := by
  obtain ⟨rule, hrule, rfl, hdot⟩ := hfinishes
  have hsymbol : rule.symbol? first.dot = none := List.getElem?_eq_none_iff.2 hdot
  refine bind_eq_ok_iff.2 ⟨first, Chart.item_eq_ok_iff.2 hfirst, ?_⟩
  refine bind_eq_ok_iff.2 ⟨rule, Grammar.rule_eq_ok_iff.2 hrule, ?_⟩
  simp only [hsymbol]
  exact bind_eq_ok_iff.2 ⟨_, Chart.waiting_eq_ok hwf hruled horigin, rfl⟩

/-- Taking up a slot gives the items that arise from it, and notes it where it is an empty
    derivation. -/
theorem yield_eq_ok (hruled : chart.Ruled r.grammar)
    (horigin : first.origin < chart.columns.size) (nullable : List (N × ItemId)) :
    ∃ items nullable', r.yield chart position nullable slot = .ok (items, nullable') ∧
      (∀ other, other ∈ items ↔ r.Arises chart position nullable slot first other) ∧
      ∀ n id, (n, id) ∈ nullable' ↔
        (n, id) ∈ nullable ∨ id = slot ∧ first.origin = position ∧ first.Finishes r.grammar n := by
  have hitems {item : Item} : item ∈ chart.itemsOf position slot ↔ _ :=
    hwf.mem_derivationItems_iff hslot hfirst
  obtain ⟨rule, hrule⟩ := hruled first (Array.mem_of_getElem? hfirst)
  rcases Item.expects_or_finishes hrule with ⟨t | n, hexpects⟩ | hfinishes
  · refine ⟨_, _, r.yield_of_expects_terminal hwf hslot hfirst hexpects, fun other => ?_,
      fun n id => ⟨.inl, fun h => h.resolve_right fun h => hexpects.not_finishes h.2.2⟩⟩
    rw [arises_iff_of_terminal hexpects, ← r.admitsAt_iff]
    split_ifs with hadmits <;> simp [hadmits, hitems, and_assoc]
  · refine ⟨_, _, r.yield_of_expects_nonterminal hwf hslot hfirst hexpects, fun other => ?_,
      fun n id => ⟨.inl, fun h => h.resolve_right fun h => hexpects.not_finishes h.2.2⟩⟩
    rw [arises_iff_of_nonterminal hexpects]
    simp [hitems, mem_stepOver_iff, and_assoc]
  · refine ⟨_, _, r.yield_of_finishes hwf hfirst hruled horigin hfinishes, fun other => ?_,
      fun n id => ?_⟩
    · rw [arises_iff_of_finishes hfinishes, List.mem_map]
      simp only [Chart.mem_parents_iff hwf]
    · have hhead : first.Finishes r.grammar n ↔ n = rule.head :=
        ⟨fun h => h.unique hfinishes, fun h => h ▸ hfinishes⟩
      rw [hhead]
      split_ifs with hhere <;> simp [hhere, and_comm]

end Yield

end Recognition

end Earley
