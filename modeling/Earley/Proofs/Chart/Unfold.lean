import Earley.Proofs.Chart.Tiling

/-!
# Unfolding

A finished item of a chart unfolds to derivation trees. For each backpointer any derivation of the slot
that it names may be taken, and is unfolded in turn. A chart can unfold to infinitely many trees, since
the backpointers of one derivation may lead back to a slot that it is an alternative of.
-/

namespace Earley.Chart

variable {T N H : Type} [DecidableEq N]

/-- The backpointers, one for each nonterminal among the symbols, unfold to these trees from left to
    right, beginning at position `i`. -/
inductive UnfoldsTo (chart : Chart) (g : Grammar T N H) :
    List (Symbol T N) → Nat → List ItemId → List (RuleTree T) → Prop where
  | nil (i : Nat) : UnfoldsTo chart g [] i [] []
  | terminal {t : T} {symbols : List (Symbol T N)} {i : Nat} {slots : List ItemId}
      {trees : List (RuleTree T)} (hrest : UnfoldsTo chart g symbols (i + 1) slots trees) :
      UnfoldsTo chart g (.terminal t :: symbols) i slots (.leaf t i :: trees)
  | nonterminal {n : N} {symbols : List (Symbol T N)} {i : Nat} {slot id : ItemId}
      {derivations slots : List ItemId} {item : Item} {rule : Rule T N H}
      {children trees : List (RuleTree T)}
      (hderivations : chart.derivations slot = .ok derivations) (hid : id ∈ derivations)
      (hitem : chart.item id = .ok item) (hrule : g.rule item.rule = .ok rule)
      (hchildren : UnfoldsTo chart g rule.production item.origin item.backpointers children)
      (hrest : UnfoldsTo chart g symbols item.stop slots trees) :
      UnfoldsTo chart g (.nonterminal n :: symbols) i (slot :: slots)
        (.node item.rule children :: trees)

/-- The item of this id unfolds to the tree, whose root applies the item's rule. -/
def Unfolds (chart : Chart) (g : Grammar T N H) (id : ItemId) (tree : RuleTree T) : Prop :=
  ∃ item rule children, chart.item id = .ok item ∧ g.rule item.rule = .ok rule ∧
    chart.UnfoldsTo g rule.production item.origin item.backpointers children ∧
    tree = .node item.rule children

end Earley.Chart
