import Earley.Proofs.Tree.Forest
import Earley.Tree.Walk

/-!
# Walks

A walk keeps the nodes that it has entered in a list and handles a root, a leaf and an interior node in
different places. It still is the walk by recursion: whatever a visitor does with its state, it is told the
same, in the same order, up to the first time that it halts the walk. A walk that is never halted enters
and leaves every interior node once.
-/

namespace Earley

variable {T N H σ : Type}

/-- What a visitor can be told. -/
inductive Call (T N H : Type) where
  | enter (t : Tree T N H)
  | exit (t : Tree T N H)
  | leaf (t : Tree T N H)

namespace Call

/-- The interior node that is entered. -/
@[simp]
def entered? : Call T N H → Option (Tree T N H)
  | enter t => some t
  | exit _ => none
  | leaf _ => none

/-- The interior node that is left. -/
@[simp]
def left? : Call T N H → Option (Tree T N H)
  | enter _ => none
  | exit t => some t
  | leaf _ => none

/-- The leaf that is met. -/
@[simp]
def met? : Call T N H → Option (Tree T N H)
  | enter _ => none
  | exit _ => none
  | leaf t => some t

/-- Every node that is entered is left again, and the calls in between are nested in turn. -/
inductive Nested : List (Call T N H) → Prop where
  | nil : Nested []
  | leaf (t : Tree T N H) {rest : List (Call T N H)} (hrest : Nested rest) : Nested (.leaf t :: rest)
  | node (t : Tree T N H) {inside rest : List (Call T N H)} (hinside : Nested inside)
      (hrest : Nested rest) : Nested (.enter t :: (inside ++ .exit t :: rest))

end Call

/-- Goes on from the state that has been reached, unless the walk has been halted. -/
def Flow.andThen (reached : Flow × σ) (next : σ → Flow × σ) : Flow × σ :=
  match reached with
  | (.halt, s) => (.halt, s)
  | (.proceed, s) => next s

theorem Flow.andThen_assoc (reached : Flow × σ) (next last : σ → Flow × σ) :
    andThen (andThen reached next) last = andThen reached fun s => andThen (next s) last := by
  obtain ⟨_ | _, s⟩ := reached <;> rfl

theorem Flow.andThen_proceed (reached : Flow × σ) :
    (andThen reached fun s => (.proceed, s)) = reached := by
  obtain ⟨_ | _, s⟩ := reached <;> rfl

namespace Visitor

/-- What the visitor does when it is told this. -/
def answer (v : Visitor T N H σ) : Call T N H → σ → Flow × σ
  | .enter t => v.enter t
  | .exit t => v.exit t
  | .leaf t => v.leaf t

/-- The visitor is told all this in order, up to the first time that it halts. -/
def perform (v : Visitor T N H σ) : List (Call T N H) → σ → Flow × σ
  | [], s => (.proceed, s)
  | call :: calls, s => Flow.andThen (v.answer call s) (v.perform calls)

/-- The calls up to the first at which the visitor halts, with that one. -/
def made (v : Visitor T N H σ) : List (Call T N H) → σ → List (Call T N H)
  | [], _ => []
  | call :: calls, s =>
    match v.answer call s with
    | (.halt, _) => [call]
    | (.proceed, s) => call :: v.made calls s

/-- A visitor that does the same and takes down what it is told. -/
def logged (v : Visitor T N H σ) : Visitor T N H (σ × List (Call T N H)) where
  enter t := fun (s, log) => ((v.enter t s).1, (v.enter t s).2, log ++ [.enter t])
  exit t := fun (s, log) => ((v.exit t s).1, (v.exit t s).2, log ++ [.exit t])
  leaf t := fun (s, log) => ((v.leaf t s).1, (v.leaf t s).2, log ++ [.leaf t])

variable (v : Visitor T N H σ)

theorem perform_append (calls rest : List (Call T N H)) (s : σ) :
    v.perform (calls ++ rest) s = Flow.andThen (v.perform calls s) (v.perform rest) := by
  induction calls generalizing s with
  | nil => rfl
  | cons call calls ih => rw [List.cons_append, perform, funext ih, perform, Flow.andThen_assoc]

theorem answer_logged (call : Call T N H) (s : σ) (log : List (Call T N H)) :
    v.logged.answer call (s, log) =
      ((v.answer call s).1, (v.answer call s).2, log ++ [call]) := by
  cases call <;> rfl

/-- What is taken down is what the visitor has been told. -/
theorem perform_logged (calls : List (Call T N H)) (s : σ) (log : List (Call T N H)) :
    v.logged.perform calls (s, log) =
      ((v.perform calls s).1, (v.perform calls s).2, log ++ v.made calls s) := by
  induction calls generalizing s log with
  | nil => simp [perform, made]
  | cons call calls ih =>
    rw [perform, answer_logged, perform, made]
    obtain ⟨_ | _, s'⟩ := v.answer call s
    · simp [Flow.andThen, ih]
    · rfl

/-- A visitor that never halts is told everything. -/
theorem made_eq_of_proceed {calls : List (Call T N H)} {s : σ}
    (h : (v.perform calls s).1 = .proceed) : v.made calls s = calls := by
  induction calls generalizing s with
  | nil => rfl
  | cons call calls ih =>
    rw [perform] at h
    rw [made]
    generalize v.answer call s = reached at h ⊢
    obtain ⟨_ | _, s'⟩ := reached
    · exact congrArg (call :: ·) (ih h)
    · cases h

end Visitor

namespace Tree

mutual

/-- Walks a tree by recursion. A leaf is met; an interior node is entered, its children are walked from left
    to right, and it is left. Where the visitor halts, nothing more is done. -/
def traverse (v : Visitor T N H σ) : Tree T N H → σ → Flow × σ
  | leaf t span, s => v.leaf (leaf t span) s
  | node head children enter exit span, s =>
    let t := node head children enter exit span
    Flow.andThen (v.enter t s) fun s => Flow.andThen (traverseAll v children s) (v.exit t)

/-- Walks all trees of a list from left to right. -/
def traverseAll (v : Visitor T N H σ) : List (Tree T N H) → σ → Flow × σ
  | [], s => (.proceed, s)
  | t :: ts, s => Flow.andThen (traverse v t s) (traverseAll v ts)

end

mutual

/-- What a visitor is told of a tree if it never halts. -/
def calls : Tree T N H → List (Call T N H)
  | leaf t span => [.leaf (leaf t span)]
  | node head children enter exit span =>
    let t := node head children enter exit span
    .enter t :: (callsAll children ++ [.exit t])

/-- What a visitor is told of all trees of a list. -/
def callsAll : List (Tree T N H) → List (Call T N H)
  | [] => []
  | t :: ts => calls t ++ callsAll ts

end

theorem callsAll_leaf (t : T) (span : Span) (ts : List (Tree T N H)) :
    callsAll (leaf t span :: ts) = .leaf (leaf t span) :: callsAll ts :=
  rfl

theorem callsAll_node (head : N) (below : List (Tree T N H)) (enter exit : Option H) (span : Span)
    (ts : List (Tree T N H)) :
    callsAll (node head below enter exit span :: ts) =
      .enter (node head below enter exit span) ::
        (callsAll below ++ .exit (node head below enter exit span) :: callsAll ts) := by
  simp [callsAll, calls]

theorem callsAll_singleton (t : Tree T N H) : callsAll [t] = calls t := by
  rw [callsAll, callsAll, List.append_nil]

section Walk

variable (v : Visitor T N H σ)

theorem walkFrom_exit (parent : Tree T N H) (frames : List (Tree T N H × List (Tree T N H))) (s : σ) :
    walkFrom v ((parent, []) :: frames) s = Flow.andThen (v.exit parent s) (walkFrom v frames) := by
  rw [walkFrom]
  rfl

theorem walkFrom_leaf (parent : Tree T N H) (t : T) (span : Span) (rest : List (Tree T N H))
    (frames : List (Tree T N H × List (Tree T N H))) (s : σ) :
    walkFrom v ((parent, leaf t span :: rest) :: frames) s =
      Flow.andThen (v.leaf (leaf t span) s) (walkFrom v ((parent, rest) :: frames)) := by
  rw [walkFrom]
  rfl

theorem walkFrom_enter (parent : Tree T N H) (head : N) (children : List (Tree T N H))
    (enter exit : Option H) (span : Span) (rest : List (Tree T N H))
    (frames : List (Tree T N H × List (Tree T N H))) (s : σ) :
    walkFrom v ((parent, node head children enter exit span :: rest) :: frames) s =
      Flow.andThen (v.enter (node head children enter exit span) s)
        (walkFrom v ((node head children enter exit span, children) :: (parent, rest) :: frames)) := by
  rw [walkFrom]
  rfl

/-- To walk on from a node means to walk its remaining children by recursion, to leave it, and to walk on
    from the node around it. -/
theorem walkFrom_eq (parent : Tree T N H) (rest : List (Tree T N H))
    (frames : List (Tree T N H × List (Tree T N H))) (s : σ) :
    walkFrom v ((parent, rest) :: frames) s =
      Flow.andThen (traverseAll v rest s) fun s =>
        Flow.andThen (v.exit parent s) (walkFrom v frames) := by
  -- Below a child the node itself is one of the nodes around it, so both have to be arbitrary.
  induction rest using forest_induction_on_root generalizing parent frames s with
  | nil => exact walkFrom_exit v parent frames s
  | leaf t span rest ihrest =>
    rw [walkFrom_leaf, funext (ihrest parent frames), traverseAll, traverse, Flow.andThen_assoc]
  | node head below enter exit span rest ihbelow ihrest =>
    rw [walkFrom_enter, funext (ihbelow _ ((parent, rest) :: frames)), funext (ihrest parent frames),
      traverseAll, traverse]
    simp only [Flow.andThen_assoc]

theorem walkFrom_nil : walkFrom v [] = fun s => (.proceed, s) := by
  funext s
  rw [walkFrom]

theorem walk_eq (t : Tree T N H) (s : σ) : walk v t s = traverse v t s := by
  cases t with
  | leaf t span => rfl
  | node head below enter exit span =>
    have hwalk : walk v (node head below enter exit span) s =
        Flow.andThen (v.enter (node head below enter exit span) s)
          (walkFrom v [(node head below enter exit span, below)]) := rfl
    rw [hwalk, funext (walkFrom_eq v _ below []), walkFrom_nil, traverse]
    simp only [Flow.andThen_proceed]

/-- The recursion makes the calls in order, up to the first that halts. -/
theorem traverseAll_eq_perform (ts : List (Tree T N H)) (s : σ) :
    traverseAll v ts s = v.perform (callsAll ts) s := by
  induction ts using forest_induction_on_root generalizing s with
  | nil => rfl
  | leaf t span ts ihrest =>
    rw [traverseAll, traverse, funext ihrest, callsAll_leaf, Visitor.perform, Visitor.answer]
  | node head below enter exit span ts ihbelow ihrest =>
    rw [traverseAll, traverse, funext ihbelow, funext ihrest, callsAll_node, Visitor.perform,
      funext (v.perform_append (callsAll below) _)]
    simp only [Flow.andThen_assoc, Visitor.perform, Visitor.answer]

theorem traverse_eq_perform (t : Tree T N H) (s : σ) : traverse v t s = v.perform (calls t) s := by
  rw [← callsAll_singleton, ← traverseAll_eq_perform, traverseAll]
  exact (Flow.andThen_proceed _).symm

end Walk

theorem nested_callsAll (ts : List (Tree T N H)) : Call.Nested (callsAll ts) := by
  induction ts using forest_induction_on_root with
  | nil => exact .nil
  | leaf t span ts ihrest => exact .leaf _ ihrest
  | node head below enter exit span ts ihbelow ihrest =>
    rw [callsAll_node]
    exact .node _ ihbelow ihrest

/-- The interior nodes are entered one after the other, each ahead of those below it. -/
theorem entered_callsAll (ts : List (Tree T N H)) :
    (callsAll ts).filterMap Call.entered? = (nodesAll ts).filter fun t => !t.isLeaf := by
  induction ts using forest_induction_on_root with
  | nil => rfl
  | leaf t span ts ihrest => simp [callsAll_leaf, List.filterMap_cons, ihrest]
  | node head below enter exit span ts ihbelow ihrest =>
    simp [callsAll_node, List.filterMap_cons, ihbelow, ihrest]

/-- The same nodes are left, each after those below it. -/
theorem left_callsAll (ts : List (Tree T N H)) :
    ((callsAll ts).filterMap Call.left?).Perm ((nodesAll ts).filter fun t => !t.isLeaf) := by
  induction ts using forest_induction_on_root with
  | nil => exact .nil
  | leaf t span ts ihrest => simpa [callsAll_leaf, List.filterMap_cons] using ihrest
  | node head below enter exit span ts ihbelow ihrest =>
    simp only [callsAll_node, List.filterMap_cons, List.filterMap_append, nodesAll_cons, children_node,
      List.filter_cons, List.filter_append, isLeaf_node, Call.left?, Bool.not_false, if_true]
    exact List.perm_middle.trans ((ihbelow.append ihrest).cons _)

/-- The leaves are met from left to right. -/
theorem met_callsAll (ts : List (Tree T N H)) :
    (callsAll ts).filterMap Call.met? = (nodesAll ts).filter fun t => t.isLeaf := by
  induction ts using forest_induction_on_root with
  | nil => rfl
  | leaf t span ts ihrest => simp [callsAll_leaf, List.filter_cons, ihrest]
  | node head below enter exit span ts ihbelow ihrest =>
    simp [callsAll_node, List.filterMap_cons, ihbelow, ihrest]

/-- Walking a tree is walking it by recursion, and what a visitor is told is what the recursion tells it, up
    to the first time that it halts. A visitor that never halts is told of every interior node when it is
    entered and when it is left, once each and nested, and of every leaf once. -/
theorem walk_eq_traverse (v : Visitor T N H σ) (t : Tree T N H) (s : σ) :
    walk v t s = traverse v t s ∧
      walk v.logged t (s, []) = ((walk v t s).1, (walk v t s).2, v.made (calls t) s) ∧
      ((walk v t s).1 = .proceed →
        v.made (calls t) s = calls t ∧ Call.Nested (calls t) ∧
          (calls t).filterMap Call.entered? = t.nodes.filter (fun u => !u.isLeaf) ∧
          ((calls t).filterMap Call.left?).Perm (t.nodes.filter fun u => !u.isLeaf) ∧
          (calls t).filterMap Call.met? = t.nodes.filter fun u => u.isLeaf) := by
  rw [walk_eq, walk_eq, traverse_eq_perform, traverse_eq_perform, Visitor.perform_logged,
    List.nil_append]
  refine ⟨rfl, rfl, fun hproceed => ⟨v.made_eq_of_proceed hproceed, ?_⟩⟩
  rw [← callsAll_singleton, ← nodesAll_singleton]
  exact ⟨nested_callsAll _, entered_callsAll _, left_callsAll _, met_callsAll _⟩

end Tree

end Earley
