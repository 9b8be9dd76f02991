import Earley.Proofs.Chart.Accepting
import Earley.Tree.Build

/-!
# Built trees

The children of a node follow from its production, its backpointers and the position at which it
begins. Nodes under construction only keep track of a recursion on these: where backpointers lead to
items of smaller ids, every item of the chart has a tree, and building it gives that tree.
-/

namespace Earley

/-- Backpointers lead to items that entered the chart earlier. -/
def Chart.Descends (chart : Chart) : Prop :=
  ∀ {id : ItemId} {item : Item}, chart.arena[id]? = some item → ∀ c ∈ item.backpointers, c < id

namespace Tree

variable {T N H : Type} [DecidableEq N] {g : Grammar T N H} {chart : Chart}

/-- The children of a node for these symbols, if these backpointers are left and the first child begins
    at `position`. -/
inductive Fits (g : Grammar T N H) (chart : Chart) :
    List (Symbol T N) → List ItemId → Nat → List (Tree T N H) → Prop where
  | nil (pointers : List ItemId) (position : Nat) : Fits g chart [] pointers position []
  | terminal {t : T} {symbols : List (Symbol T N)} {pointers : List ItemId} {position : Nat}
      {children : List (Tree T N H)} (hrest : Fits g chart symbols pointers (position + 1) children) :
      Fits g chart (.terminal t :: symbols) pointers position
        (leaf t ⟨position, position + 1⟩ :: children)
  | missing {n : N} {symbols : List (Symbol T N)} {position : Nat} {children : List (Tree T N H)}
      (hrest : Fits g chart symbols [] position children) :
      Fits g chart (.nonterminal n :: symbols) [] position
        (node n [] none none ⟨position, position⟩ :: children)
  | child {n : N} {symbols : List (Symbol T N)} {pointer : ItemId} {pointers : List ItemId}
      {position : Nat} {item : Item} {rule : Rule T N H} {below children : List (Tree T N H)}
      (hitem : chart.arena[pointer]? = some item) (hrule : g.rules[item.rule]? = some rule)
      (hbelow : Fits g chart rule.production item.backpointers item.origin below)
      (hrest : Fits g chart symbols pointers item.stop children) :
      Fits g chart (.nonterminal n :: symbols) (pointer :: pointers) position
        (node rule.head below rule.enter rule.exit ⟨item.origin, item.stop⟩ :: children)

/-- The tree of an item: a node for its rule, with the children that fit. -/
def Shows (g : Grammar T N H) (chart : Chart) (id : ItemId) (tree : Tree T N H) : Prop :=
  ∃ item rule children, chart.arena[id]? = some item ∧ g.rules[item.rule]? = some rule ∧
    Fits g chart rule.production item.backpointers item.origin children ∧
    tree = node rule.head children rule.enter rule.exit ⟨item.origin, item.stop⟩

section Run

variable {item : Item} {rule : Rule T N H} {symbols : List (Symbol T N)} {pointers : List ItemId}
  {position room : Nat} {done : List (Tree T N H)} {parents : List (Frame T N H)}

/-- Hands a finished node to the node that waits for it. -/
def resume (g : Grammar T N H) (chart : Chart) (room : Nat) (tree : Tree T N H) :
    List (Frame T N H) → Except Fault (Tree T N H)
  | [] => .ok tree
  | parent :: parents => buildFrom g chart (room + 1) (parent.join tree) parents

theorem resume_cons {tree : Tree T N H} {parent : Frame T N H} :
    resume g chart room tree (parent :: parents) =
      buildFrom g chart (room + 1) (parent.join tree) parents :=
  rfl

theorem buildFrom_nil :
    buildFrom g chart room ⟨item, rule, [], pointers, position, done⟩ parents =
      resume g chart room
        (node rule.head done.reverse rule.enter rule.exit ⟨item.origin, item.stop⟩) parents := by
  conv_lhs => rw [buildFrom.eq_def]
  cases parents <;> rfl

theorem buildFrom_terminal {t : T} :
    buildFrom g chart room ⟨item, rule, .terminal t :: symbols, pointers, position, done⟩ parents =
      buildFrom g chart room
        ⟨item, rule, symbols, pointers, position + 1, leaf t ⟨position, position + 1⟩ :: done⟩
        parents := by
  conv_lhs => rw [buildFrom.eq_def]
  rfl

theorem buildFrom_missing {n : N} :
    buildFrom g chart room ⟨item, rule, .nonterminal n :: symbols, [], position, done⟩ parents =
      buildFrom g chart room
        ⟨item, rule, symbols, [], position, node n [] none none ⟨position, position⟩ :: done⟩
        parents := by
  conv_lhs => rw [buildFrom.eq_def]
  rfl

theorem start_eq_ok {id : ItemId} (hitem : chart.arena[id]? = some item)
    (hrule : g.rules[item.rule]? = some rule) :
    Frame.start g chart id =
      .ok ⟨item, rule, rule.production, item.backpointers, item.origin, []⟩ := by
  refine bind_eq_ok_iff.2 ⟨item, Chart.item_eq_ok_iff.2 hitem, ?_⟩
  exact bind_eq_ok_iff.2 ⟨rule, Grammar.rule_eq_ok_iff.2 hrule, rfl⟩

theorem buildFrom_child {n : N} {pointer : ItemId} {child : Frame T N H}
    (hstart : Frame.start g chart pointer = .ok child) :
    buildFrom g chart (room + 1)
        ⟨item, rule, .nonterminal n :: symbols, pointer :: pointers, position, done⟩ parents =
      buildFrom g chart room child (⟨item, rule, symbols, pointers, position, done⟩ :: parents) := by
  conv_lhs => rw [buildFrom.eq_def]
  dsimp only
  split
  · rename_i hfault
    rw [hstart] at hfault
    cases hfault
  · rename_i found hfound
    rw [hstart] at hfound
    cases hfound
    rfl

/-- Building goes on with the children that fit, and then finishes the node. -/
theorem buildFrom_of_fits (hdescends : chart.Descends) {children : List (Tree T N H)}
    (hfits : Fits g chart symbols pointers position children)
    (hroom : ∀ pointer ∈ pointers, pointer < room) :
    buildFrom g chart room ⟨item, rule, symbols, pointers, position, done⟩ parents =
      resume g chart room
        (node rule.head (done.reverse ++ children) rule.enter rule.exit ⟨item.origin, item.stop⟩)
        parents := by
  induction hfits generalizing room item rule done parents with
  | nil =>
    rw [buildFrom_nil, List.append_nil]
  | terminal _ ih =>
    rw [buildFrom_terminal, ih hroom, List.reverse_cons, List.append_assoc, List.singleton_append]
  | missing _ ih =>
    rw [buildFrom_missing, ih hroom, List.reverse_cons, List.append_assoc, List.singleton_append]
  | @child n symbols pointer pointers position found foundRule below children hitem hrule _ _
      ihbelow ihrest =>
    have hpointer := hroom pointer List.mem_cons_self
    obtain ⟨room, rfl⟩ := Nat.exists_eq_add_one.2 (Nat.zero_lt_of_lt hpointer)
    have hbelow : ∀ c ∈ found.backpointers, c < room := by
      intro c hc
      exact Nat.lt_of_lt_of_le (hdescends hitem c hc) (Nat.le_of_lt_succ hpointer)
    rw [buildFrom_child (start_eq_ok hitem hrule), ihbelow hbelow, List.reverse_nil, List.nil_append]
    rw [resume_cons, Frame.join]
    dsimp only [span]
    rw [ihrest fun c hc => hroom c (List.mem_cons_of_mem _ hc), List.reverse_cons,
      List.append_assoc, List.singleton_append]

end Run

/-- Building an item gives its tree. -/
theorem build_eq_ok (hdescends : chart.Descends) {id : ItemId} {tree : Tree T N H}
    (hshows : Shows g chart id tree) : build g chart id = .ok tree := by
  obtain ⟨item, rule, children, hitem, hrule, hfits, rfl⟩ := hshows
  refine bind_eq_ok_iff.2 ⟨_, start_eq_ok hitem hrule, ?_⟩
  have hroom : ∀ pointer ∈ item.backpointers, pointer < chart.arena.size := by
    intro pointer hpointer
    exact Nat.lt_trans (hdescends hitem pointer hpointer) (lt_size_of_getElem? hitem)
  rw [buildFrom_of_fits hdescends hfits hroom]
  rfl

/-- Some children fit if the backpointers lead to items that have a tree. -/
theorem exists_fits (symbols : List (Symbol T N)) {pointers : List ItemId} (position : Nat)
    (hpointers : ∀ pointer ∈ pointers, ∃ tree, Shows g chart pointer tree) :
    ∃ children, Fits g chart symbols pointers position children := by
  induction symbols generalizing pointers position with
  | nil => exact ⟨[], .nil pointers position⟩
  | cons symbol symbols ih =>
    cases symbol with
    | terminal t =>
      obtain ⟨children, hchildren⟩ := ih (position + 1) hpointers
      exact ⟨_, .terminal hchildren⟩
    | nonterminal n =>
      cases pointers with
      | nil =>
        obtain ⟨children, hchildren⟩ := ih position hpointers
        exact ⟨_, .missing hchildren⟩
      | cons pointer pointers =>
        obtain ⟨_, item, rule, below, hitem, hrule, hbelow, _⟩ := hpointers pointer List.mem_cons_self
        obtain ⟨children, hchildren⟩ := ih item.stop fun c hc =>
          hpointers c (List.mem_cons_of_mem pointer hc)
        exact ⟨_, .child hitem hrule hbelow hchildren⟩

/-- Every item of the chart has a tree if all of them belong to rules of the grammar. -/
theorem exists_shows (hruled : chart.Ruled g) (hdescends : chart.Descends) {id : ItemId}
    (hid : id < chart.arena.size) : ∃ tree, Shows g chart id tree := by
  induction id using Nat.strongRecOn with
  | ind id ih =>
    have hitem := Array.getElem?_eq_getElem hid
    obtain ⟨rule, hrule⟩ := hruled _ (Array.getElem_mem hid)
    obtain ⟨children, hchildren⟩ := exists_fits (g := g) rule.production
      chart.arena[id].origin fun pointer hpointer =>
        have hlt := hdescends hitem pointer hpointer
        ih pointer hlt (Nat.lt_trans hlt hid)
    exact ⟨_, _, rule, children, hitem, hrule, hchildren, rfl⟩

end Tree

end Earley
