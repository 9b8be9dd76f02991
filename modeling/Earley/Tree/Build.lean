import Earley.Chart.Basic
import Earley.Tree.Basic

/-!
# Building trees from a chart

A production and the backpointers of its item are walked side by side, one backpointer for each
nonterminal. Items of a recognition fit their productions. On a chart made by hand, a nonterminal
without a backpointer becomes a node without children, and backpointers to spare are ignored.

Nodes under construction wait in a list while a child of theirs is built. Where backpointers lead in
a circle there is no tree; that is noticed when more nodes are under construction than the chart has
items.
-/

namespace Earley.Tree

variable {T N H : Type} [DecidableEq N]

/-- A node under construction. -/
structure Frame (T N H : Type) where
  item : Item
  rule : Rule T N H
  /-- The symbols of the production that have no child yet. -/
  symbols : List (Symbol T N)
  /-- The backpointers not used yet. -/
  pointers : List ItemId
  /-- Where the next child begins. -/
  position : Nat
  /-- The finished children, the latest first. -/
  children : List (Tree T N H)

/-- A node of which nothing has been built. -/
def Frame.start (g : Grammar T N H) (chart : Chart) (id : ItemId) :
    Except Fault (Frame T N H) := do
  let item ← chart.item id
  let rule ← g.rule item.rule
  return ⟨item, rule, rule.production, item.backpointers, item.origin, []⟩

/-- The node with the children built so far. -/
def Frame.close (frame : Frame T N H) : Tree T N H :=
  node frame.rule.head frame.children.reverse frame.rule.enter frame.rule.exit
    ⟨frame.item.origin, frame.item.stop⟩

/-- The node with one more child. The next child begins where this one ends. -/
def Frame.join (frame : Frame T N H) (child : Tree T N H) : Frame T N H :=
  { frame with position := child.span.stop, children := child :: frame.children }

/-- The most steps that a symbol of a production takes while `room` further nodes may be under
    construction. -/
def symbolSteps (g : Grammar T N H) : Nat → Nat
  | 0 => 1
  | room + 1 => g.dottedRules * symbolSteps g room + 2

/-- The most steps that the nodes under construction take, the innermost first. -/
def frameSteps (g : Grammar T N H) (room : Nat) : List (Frame T N H) → Nat
  | [] => 0
  | frame :: parents =>
    frame.symbols.length * symbolSteps g room + 1 + frameSteps g (room + 1) parents

theorem symbolSteps_pos (g : Grammar T N H) (room : Nat) : 0 < symbolSteps g room := by
  cases room <;> simp [symbolSteps]

/-- No production is longer than the number of places for a dot in the grammar. -/
theorem Frame.length_symbols_le {g : Grammar T N H} {chart : Chart} {id : ItemId}
    {frame : Frame T N H} (h : Frame.start g chart id = .ok frame) :
    frame.symbols.length ≤ g.dottedRules := by
  unfold Frame.start at h
  obtain ⟨item, _, h⟩ := bind_eq_ok_iff.1 h
  obtain ⟨rule, hrule, h⟩ := bind_eq_ok_iff.1 h
  cases h
  have hmem : rule ∈ g.rules.toList :=
    Array.mem_toList_iff.2 (Array.mem_of_getElem? (Grammar.rule_eq_ok_iff.1 hrule))
  obtain ⟨before, after, heq⟩ := List.append_of_mem hmem
  have hle : rule.length + 1 ≤ g.dottedRules := by
    simp only [Grammar.dottedRules, ← List.sum_eq_foldl_nat, heq, List.map_append, List.map_cons,
      List.sum_append_nat, List.sum_cons]
    omega
  exact Nat.le_of_succ_le hle

/-- Builds on the innermost node under construction until the outermost is finished. -/
def buildFrom (g : Grammar T N H) (chart : Chart) (room : Nat) (frame : Frame T N H)
    (parents : List (Frame T N H)) : Except Fault (Tree T N H) :=
  match hsymbols : frame.symbols with
  | [] =>
    match parents with
    | [] => .ok frame.close
    | parent :: parents => buildFrom g chart (room + 1) (parent.join frame.close) parents
  | .terminal t :: symbols =>
    let child := leaf t ⟨frame.position, frame.position + 1⟩
    buildFrom g chart room ({ frame with symbols }.join child) parents
  | .nonterminal n :: symbols =>
    match frame.pointers with
    | [] =>
      let child := node n [] none none ⟨frame.position, frame.position⟩
      buildFrom g chart room ({ frame with symbols }.join child) parents
    | pointer :: pointers =>
      match room with
      | 0 => .error (.circular pointer)
      | room + 1 =>
        match _hstart : Frame.start g chart pointer with
        | .error fault => .error fault
        | .ok child => buildFrom g chart room child ({ frame with symbols, pointers } :: parents)
termination_by frameSteps g room (frame :: parents)
decreasing_by
  · simp only [frameSteps, Frame.join, hsymbols]
    omega
  · have := symbolSteps_pos g room
    simp only [frameSteps, Frame.join, hsymbols, List.length_cons, Nat.succ_mul]
    omega
  · have := symbolSteps_pos g room
    simp only [frameSteps, Frame.join, hsymbols, List.length_cons, Nat.succ_mul]
    omega
  · have hle := Nat.mul_le_mul_right (symbolSteps g room) (Frame.length_symbols_le _hstart)
    simp only [frameSteps, symbolSteps, hsymbols, List.length_cons, Nat.succ_mul,
      Nat.succ_eq_add_one]
    omega

/-- The tree of an item. -/
def build (g : Grammar T N H) (chart : Chart) (id : ItemId) : Except Fault (Tree T N H) := do
  let frame ← Frame.start g chart id
  buildFrom g chart chart.arena.size frame []

/-- The trees of the derivations of the whole input, in the order of the chart. -/
def buildAll (g : Grammar T N H) (chart : Chart) : Except Fault (List (Tree T N H)) := do
  (← chart.accepting g).mapM (build g chart)

end Earley.Tree
