import Mathlib.Tactic.IntervalCases
import Earley.Proofs.Chart.InPlace
import Earley.Proofs.Tree.Build

/-!
# Trees by recursion

Where backpointers lead to items of smaller ids, the tree of an item is defined by recursion on its id. The
children are found by walking the production and the backpointers side by side, whether or not the
backpointers fit the production.
-/

namespace Earley

variable {T N H : Type} [DecidableEq N] {g : Grammar T N H} {chart : Chart}

namespace Chart

/-- All items belong to rules of the grammar, and their backpointers lead to earlier items. -/
structure Grounded (chart : Chart) (g : Grammar T N H) : Prop where
  rule_lt : ∀ item ∈ chart.arena, item.rule < g.rules.size
  descends : chart.Descends

namespace Grounded

variable (h : chart.Grounded g) (id : Fin chart.arena.size)

/-- The rule of an item. -/
def ruleOf : Rule T N H :=
  have hrule : chart.arena[id].rule < g.rules.size := h.rule_lt _ (Array.getElem_mem id.isLt)
  g.rules[chart.arena[id].rule]

theorem getElem?_rule_eq_ruleOf : g.rules[chart.arena[id].rule]? = some (h.ruleOf id) :=
  Array.getElem?_eq_getElem _

/-- The backpointers of an item, as earlier items of the chart. -/
def pointersOf : List {below : Fin chart.arena.size // below < id} :=
  chart.arena[id].backpointers.attach.map fun ⟨pointer, hpointer⟩ =>
    have hlt : pointer < id := h.descends (Array.getElem?_eq_getElem id.isLt) pointer hpointer
    ⟨⟨pointer, Nat.lt_trans hlt id.isLt⟩, hlt⟩

theorem map_pointersOf :
    (h.pointersOf id).map (fun below => below.1.1) = chart.arena[id].backpointers := by
  rw [pointersOf, List.map_map]
  exact List.attach_map_subtype_val _

end Grounded

end Chart

namespace Tree

/-- The children of a node for these symbols, if the first of them begins at `position`. A nonterminal takes
    the tree of the next backpointer, and where none is left it becomes a node without children. -/
def childrenOf {P : Type} (tree : P → Tree T N H) (stop : P → Nat) :
    List (Symbol T N) → List P → Nat → List (Tree T N H)
  | [], _, _ => []
  | .terminal t :: symbols, pointers, position =>
    leaf t ⟨position, position + 1⟩ :: childrenOf tree stop symbols pointers (position + 1)
  | .nonterminal _ :: symbols, pointer :: pointers, _ =>
    tree pointer :: childrenOf tree stop symbols pointers (stop pointer)
  | .nonterminal n :: symbols, [], position =>
    node n [] none none ⟨position, position⟩ :: childrenOf tree stop symbols [] position

/-- The tree of an item: a node for its rule, above the trees of its backpointers. -/
def treeOf (h : chart.Grounded g) (id : Fin chart.arena.size) : Tree T N H :=
  let item := chart.arena[id]
  let rule := h.ruleOf id
  let children := childrenOf (fun below => treeOf h below.1) (fun below => chart.arena[below.1].stop)
    rule.production (h.pointersOf id) item.origin
  node rule.head children rule.enter rule.exit ⟨item.origin, item.stop⟩
termination_by id
decreasing_by exact below.2

/-- The children fit if the tree of every backpointer is the tree of an item of the chart. -/
theorem fits_childrenOf {P : Type} {id : P → ItemId} {tree : P → Tree T N H} {stop : P → Nat}
    (symbols : List (Symbol T N)) {pointers : List P} (position : Nat)
    (hpointers : ∀ pointer ∈ pointers, Shows g chart (id pointer) (tree pointer) ∧
      (tree pointer).span.stop = stop pointer) :
    Fits g chart symbols (pointers.map id) position
      (childrenOf tree stop symbols pointers position) := by
  induction symbols generalizing pointers position with
  | nil => exact .nil _ position
  | cons symbol symbols ih =>
    cases symbol with
    | terminal t => exact .terminal (ih (position + 1) hpointers)
    | nonterminal n =>
      cases pointers with
      | nil => exact .missing (ih position hpointers)
      | cons pointer pointers =>
        obtain ⟨hshows, hstop⟩ := hpointers pointer List.mem_cons_self
        have hrest := ih (stop pointer) fun other hother =>
          hpointers other (List.mem_cons_of_mem pointer hother)
        obtain ⟨item, rule, below, hitem, hrule, hbelow, htree⟩ := hshows
        rw [childrenOf, List.map_cons, htree]
        rw [htree] at hstop
        exact .child hitem hrule hbelow (hstop ▸ hrest)

theorem span_treeOf (h : chart.Grounded g) (id : Fin chart.arena.size) :
    (treeOf h id).span = ⟨chart.arena[id].origin, chart.arena[id].stop⟩ := by
  rw [treeOf]
  rfl

theorem shows_treeOf (h : chart.Grounded g) (id : Fin chart.arena.size) :
    Shows g chart id (treeOf h id) := by
  induction id using WellFoundedLT.induction with
  | ind id ih =>
    have hchildren : Fits g chart (h.ruleOf id).production
        ((h.pointersOf id).map fun below => below.1.1) chart.arena[id].origin
        (childrenOf (fun below => treeOf h below.1) (fun below => chart.arena[below.1].stop)
          (h.ruleOf id).production (h.pointersOf id) chart.arena[id].origin) := by
      refine fits_childrenOf _ _ fun below _ => ⟨ih below.1 below.2, ?_⟩
      rw [span_treeOf]
    rw [h.map_pointersOf] at hchildren
    refine ⟨_, _, _, Array.getElem?_eq_getElem id.isLt, h.getElem?_rule_eq_ruleOf id, hchildren, ?_⟩
    rw [treeOf]
    rfl

/-- A grammar of `S → 'x' A S` and `A → 'y'`, where `S` is `true` and `A` is `false`. -/
def lettered : Grammar Char Bool Unit :=
  ⟨#[⟨true, [.terminal 'x', .nonterminal false, .nonterminal true], some (), none⟩,
    ⟨false, [.terminal 'y'], none, none⟩], true, [(true, [0]), (false, [1])], by decide, by decide⟩

/-- A chart whose backpointers do not fit: the first item has none, the second has two to spare, and the
    third lacks one. -/
def unfitting : Chart :=
  (Chart.empty 9).afterAll
    [(⟨1, 1, 4, 5, []⟩, .merge), (⟨1, 1, 7, 8, [0, 0]⟩, .merge), (⟨0, 3, 0, 9, [1]⟩, .merge)]

theorem unfitting_grounded : unfitting.Grounded lettered where
  rule_lt := by decide
  descends := by
    intro id item hitem
    have hlt : id < 3 := lt_size_of_getElem? hitem
    interval_cases id <;> cases hitem <;> decide

end Tree

end Earley
