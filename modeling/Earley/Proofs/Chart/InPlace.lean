import Earley.Proofs.Chart.Add

/-!
# Adding items in place

Adding an item changes a chart twice: the item is stored in the arena, and then its column names it. Done in
place, one change after the other, an addition that fails between them would leave a chart that does not
agree with itself. No addition does: one that fails has changed nothing.
-/

namespace Earley.Chart

/-- An operation on a chart in place. What it had changed before it failed stays changed. -/
abbrev InPlace (α : Type) := EStateM Fault Chart α

/-- Reads from the chart. -/
def look {α : Type} (f : Chart → Except Fault α) : InPlace α := do
  match f (← get) with
  | .ok a => return a
  | .error fault => throw fault

/-- Stores an item under the next id. -/
def store (item : Item) : InPlace ItemId :=
  modifyGet fun chart => (chart.arena.size, { chart with arena := chart.arena.push item })

/-- Changes the column at a position. -/
def modifyColumn (position : Nat) (f : Column → Column) : InPlace Unit := do
  let _ ← look (·.column position)
  modify fun chart => { chart with columns := chart.columns.modify position f }

/-- Stores an item, and then has its column name it. -/
def record (item : Item) (name : ItemId → Column → Column) : InPlace ItemId := do
  let id ← store item
  modifyColumn item.stop (name id)
  return id

/-- Adds an item to the column in which it ends. -/
def addInPlace (item : Item) (policy : AmbiguityPolicy) : InPlace Insertion := do
  let column ← look (·.column item.stop)
  match column.find? item.key with
  | none =>
    let id ← record item fun id column => column.openSlot item.key id
    return .added id
  | some slot =>
    let derivations ← look (·.derivationItems slot)
    if derivations.any (·.backpointers = item.backpointers) then
      return .duplicate slot
    else
      match policy with
      | .keepFirst => return .dropped slot
      | .merge =>
        let id ← record item fun id column => column.addAlternative slot id
        return .merged slot id

section Run

variable {α β : Type} {chart chart' : Chart} {position : Nat} {column : Column}

theorem run_bind_ok {x : InPlace α} {f : α → InPlace β} {a : α} (h : x.run chart = .ok a chart') :
    (x >>= f).run chart = (f a).run chart' := by
  change EStateM.bind x f chart = _
  change x chart = _ at h
  rw [EStateM.bind, h]
  rfl

theorem run_bind_error {x : InPlace α} {f : α → InPlace β} {fault : Fault}
    (h : x.run chart = .error fault chart') : (x >>= f).run chart = .error fault chart' := by
  change EStateM.bind x f chart = _
  change x chart = _ at h
  rw [EStateM.bind, h]

theorem run_look (f : Chart → Except Fault α) (chart : Chart) :
    (look f).run chart =
      match f chart with
      | .ok a => .ok a chart
      | .error fault => .error fault chart := by
  change (match f chart with
    | .ok a => (return a : InPlace α)
    | .error fault => throw fault).run chart = _
  cases f chart <;> rfl

theorem run_look_ok {f : Chart → Except Fault α} {a : α} (h : f chart = .ok a) :
    (look f).run chart = .ok a chart := by
  rw [run_look, h]

theorem run_look_error {f : Chart → Except Fault α} {fault : Fault} (h : f chart = .error fault) :
    (look f).run chart = .error fault chart := by
  rw [run_look, h]

/-- A column that is there can be changed. -/
theorem run_modifyColumn {f : Column → Column} (h : chart.columns[position]? = some column) :
    (modifyColumn position f).run chart =
      .ok () { chart with columns := chart.columns.modify position f } := by
  unfold modifyColumn
  rw [run_bind_ok (run_look_ok (column_eq_ok_iff.2 h))]
  rfl

/-- Where the column is there, both changes are made. -/
theorem run_record {item : Item} {name : ItemId → Column → Column}
    (h : chart.columns[item.stop]? = some column) :
    (record item name).run chart = .ok chart.arena.size
      { arena := chart.arena.push item
        columns := chart.columns.modify item.stop (name chart.arena.size) } := by
  unfold record
  let stored : Chart := { chart with arena := chart.arena.push item }
  have hstore : (store item).run chart = .ok chart.arena.size stored := rfl
  have hcolumn : stored.columns[item.stop]? = some column := h
  rw [run_bind_ok hstore, run_bind_ok (run_modifyColumn hcolumn)]
  rfl

end Run

/-- Adding in place gives the outcome and the chart that adding gives, and the same chart as before if
    adding fails. -/
theorem run_addInPlace (chart : Chart) (item : Item) (policy : AmbiguityPolicy) :
    (addInPlace item policy).run chart =
      match chart.add item policy with
      | .ok (insertion, chart') => .ok insertion chart'
      | .error fault => .error fault chart := by
  unfold addInPlace add
  cases hcolumn : chart.columns[item.stop]? with
  | none =>
    exact run_bind_error (run_look_error (by simp [Chart.column, hcolumn]))
  | some column =>
    rw [run_bind_ok (run_look_ok (column_eq_ok_iff.2 hcolumn))]
    dsimp only
    cases column.find? item.key with
    | none =>
      dsimp only
      rw [run_bind_ok (run_record hcolumn)]
      rfl
    | some slot =>
      dsimp only
      cases hitems : chart.derivationItems slot with
      | error fault => exact run_bind_error (run_look_error hitems)
      | ok derivations =>
        rw [run_bind_ok (run_look_ok hitems)]
        dsimp only
        split_ifs
        · rfl
        · cases policy with
          | keepFirst => rfl
          | merge =>
            dsimp only
            rw [run_bind_ok (run_record hcolumn)]
            rfl

/-- An item without a column is turned away. -/
theorem run_addInPlace_of_le {chart : Chart} {item : Item} (h : chart.columns.size ≤ item.stop)
    (policy : AmbiguityPolicy) :
    (addInPlace item policy).run chart = .error (.noColumn item.stop) chart := by
  rw [run_addInPlace, add, Array.getElem?_eq_none h]

/-- An insertion is what adding in place does. -/
theorem WellFormed.run_addInPlace {chart chart' : Chart} {item : Item} {policy : AmbiguityPolicy}
    {insertion : Insertion} (hwf : chart.WellFormed)
    (h : chart.Inserts item policy insertion chart') (hstop : item.stop < chart.columns.size) :
    (addInPlace item policy).run chart = .ok insertion chart' := by
  rw [Chart.run_addInPlace, hwf.add_eq_ok h hstop]

/-- The chart after a call that adds an item under a policy, whether or not the call succeeds. -/
def after (chart : Chart) (call : Item × AmbiguityPolicy) : Chart :=
  match (addInPlace call.1 call.2).run chart with
  | .ok _ chart' => chart'
  | .error _ chart' => chart'

/-- The chart after several calls. -/
def afterAll (chart : Chart) (calls : List (Item × AmbiguityPolicy)) : Chart :=
  calls.foldl after chart

theorem after_of_le {chart : Chart} {call : Item × AmbiguityPolicy}
    (h : chart.columns.size ≤ call.1.stop) : chart.after call = chart := by
  rw [after, run_addInPlace_of_le h]

namespace WellFormed

variable {chart : Chart} (hwf : chart.WellFormed)
include hwf

theorem exists_inserts_after {call : Item × AmbiguityPolicy}
    (hstop : call.1.stop < chart.columns.size) :
    ∃ insertion, chart.Inserts call.1 call.2 insertion (chart.after call) := by
  obtain ⟨insertion, chart', _, hinserts⟩ := hwf.add_inserts hstop call.2
  refine ⟨insertion, ?_⟩
  rw [after, hwf.run_addInPlace hinserts hstop]
  exact hinserts

/-- A call keeps a chart well formed and what it holds. -/
theorem wellFormed_after (call : Item × AmbiguityPolicy) :
    (chart.after call).WellFormed ∧ (chart.after call).Extends chart := by
  by_cases hstop : call.1.stop < chart.columns.size
  · obtain ⟨insertion, hinserts⟩ := hwf.exists_inserts_after hstop
    exact ⟨hinserts.wellFormed hwf hstop, hinserts.chart_extends hstop⟩
  · rw [after_of_le (Nat.le_of_not_lt hstop)]
    exact ⟨hwf, .refl chart⟩

/-- So do any number of calls. -/
theorem wellFormed_afterAll (calls : List (Item × AmbiguityPolicy)) :
    (chart.afterAll calls).WellFormed ∧ (chart.afterAll calls).Extends chart := by
  induction calls generalizing chart with
  | nil => exact ⟨hwf, .refl chart⟩
  | cons call calls ih =>
    obtain ⟨hafter, hextends⟩ := hwf.wellFormed_after call
    obtain ⟨hall, hextendsAll⟩ := ih hafter
    exact ⟨hall, hextendsAll.trans hextends⟩

end WellFormed

end Earley.Chart
