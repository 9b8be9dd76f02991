import Earley.Symbol

/-!
# Derivation trees

A leaf stands for a terminal of a production, an interior node for a use of a rule. Every node knows
which tokens it covers, and interior nodes carry the hooks of their rule.

A left-recursive rule gives trees as deep as the input is long. Operations on trees therefore keep
what is left to do in a list instead of calling themselves on the children.
-/

namespace Earley

/-- The tokens from position `start` up to position `stop`. -/
structure Span where
  start : Nat
  stop : Nat
deriving DecidableEq, Repr

/-- A derivation tree. -/
inductive Tree (T N H : Type) where
  | leaf (terminal : T) (span : Span)
  | node (head : N) (children : List (Tree T N H)) (enter exit : Option H) (span : Span)

namespace Tree

variable {T N H : Type}

/-- The symbol that the node stands for. -/
def label : Tree T N H → Symbol T N
  | leaf t _ => .terminal t
  | node n _ _ _ _ => .nonterminal n

def children : Tree T N H → List (Tree T N H)
  | leaf _ _ => []
  | node _ children _ _ _ => children

/-- The hook to run before the children are visited. -/
def enter? : Tree T N H → Option H
  | leaf _ _ => none
  | node _ _ enter _ _ => enter

/-- The hook to run after the children have been visited. -/
def exit? : Tree T N H → Option H
  | leaf _ _ => none
  | node _ _ _ exit _ => exit

def span : Tree T N H → Span
  | leaf _ span => span
  | node _ _ _ _ span => span

def isLeaf : Tree T N H → Bool
  | leaf _ _ => true
  | node _ _ _ _ _ => false

mutual

/-- The number of nodes. -/
def count : Tree T N H → Nat
  | leaf _ _ => 1
  | node _ children _ _ _ => countAll children + 1

/-- The number of nodes of all trees of a list. -/
def countAll : List (Tree T N H) → Nat
  | [] => 0
  | t :: ts => count t + countAll ts

end

theorem countAll_append (ts us : List (Tree T N H)) :
    countAll (ts ++ us) = countAll ts + countAll us := by
  induction ts with
  | nil => simp [countAll]
  | cons t ts ih => simp [countAll, ih, Nat.add_assoc]

theorem countAll_reverse (ts : List (Tree T N H)) : countAll ts.reverse = countAll ts := by
  induction ts with
  | nil => rfl
  | cons t ts ih => simp [countAll_append, countAll, ih, Nat.add_comm]

theorem count_eq (t : Tree T N H) : t.count = countAll t.children + 1 := by
  cases t <;> simp [count, children, countAll]

theorem count_pos (t : Tree T N H) : 0 < t.count := by
  rw [count_eq]
  omega

end Tree

end Earley
