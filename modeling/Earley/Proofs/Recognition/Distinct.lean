import Earley.Proofs.Recognition.Trees

/-!
# Items told apart by their trees

A tree does not name the items that it was built from, and yet it tells them apart where no rule stands
twice in the grammar. The root shows the rule, by its head, the symbols of its children and its hooks, and
the span shows the origin and the position. So equal children come from equal slots, and an item is told
by its rule, its span and the slots that it names.
-/

namespace Earley

/-- The child for a nonterminal is the tree of its slot. -/
theorem Tree.Fits.exists_shows {T N H : Type} [DecidableEq N] {g : Grammar T N H} {chart : Chart} {n : N}
    {symbols : List (Symbol T N)} {pointer : ItemId} {pointers : List ItemId} {position : Nat}
    {children : List (Tree T N H)}
    (hfits : Fits g chart (.nonterminal n :: symbols) (pointer :: pointers) position children) :
    ∃ tree rest item, children = tree :: rest ∧ chart.arena[pointer]? = some item ∧
      Shows g chart pointer tree ∧ Fits g chart symbols pointers item.stop rest := by
  cases hfits with
  | child hitem hrule hbelow hrest =>
    exact ⟨_, _, _, rfl, hitem, ⟨_, _, _, hitem, hrule, hbelow, rfl⟩, hrest⟩

namespace Recognition.Filled

variable {T N H Tok : Type} [DecidableEq N] [Terminal T Tok] {r : Recognition T N H Tok}
  {chart : Chart} (h : r.Filled chart) (hrules : r.grammar.rules.toList.Nodup)
  {id id' : ItemId} {item item' : Item} {n n' : N} {tree : Tree T N H}
include h

/-- The production of a finished item tiles what the item covers, and its dot is at the end. -/
theorem tiles_of_finishes (hitem : chart.arena[id]? = some item) {rule : Rule T N H}
    (hrule : r.grammar.rules[item.rule]? = some rule) (hfinishes : item.Finishes r.grammar n) :
    item.dot = rule.length ∧
      chart.Tiles r.grammar r.tokens rule.production item.origin item.stop item.backpointers := by
  obtain ⟨_, hjustified⟩ := h.justified (Array.mem_of_getElem? hitem)
  have hfound := hjustified.rule_eq
  rw [hrule] at hfound
  cases hfound
  have htiles := hjustified.tiles_production hfinishes
  obtain ⟨_, hfound, _, hdot⟩ := hfinishes
  rw [hrule] at hfound
  cases hfound
  exact ⟨Nat.le_antisymm hjustified.dot_le hdot, htiles⟩

include hrules

/-- Finished items of the same tree have the same key and position. -/
theorem same_key_of_shows (hitem : chart.arena[id]? = some item)
    (hitem' : chart.arena[id']? = some item') (hfinishes : item.Finishes r.grammar n)
    (hfinishes' : item'.Finishes r.grammar n') (hshows : Tree.Shows r.grammar chart id tree)
    (hshows' : Tree.Shows r.grammar chart id' tree) :
    item.key = item'.key ∧ item.stop = item'.stop := by
  obtain ⟨_, rule, children, hfound, hrule, hfits, rfl⟩ := hshows
  rw [hitem] at hfound
  cases hfound
  obtain ⟨_, rule', children', hfound, hrule', hfits', hsame⟩ := hshows'
  rw [hitem'] at hfound
  cases hfound
  obtain ⟨hdot, htiles⟩ := h.tiles_of_finishes hitem hrule hfinishes
  obtain ⟨hdot', htiles'⟩ := h.tiles_of_finishes hitem' hrule' hfinishes'
  have hproduction := (h.derive_of_fits hfits htiles).labels_eq
  have hproduction' := (h.derive_of_fits hfits' htiles').labels_eq
  simp only [Tree.node.injEq, Span.mk.injEq] at hsame
  obtain ⟨hhead, rfl, henter, hexit, horigin, hstop⟩ := hsame
  have hequal : rule = rule' := by
    cases rule
    cases rule'
    simp_all
  subst hequal
  -- No rule stands twice in the grammar.
  have hid : item.rule = item'.rule := by
    rw [← Array.getElem?_toList] at hrule hrule'
    have hlt := (List.getElem?_eq_some_iff.1 hrule).1
    exact (List.getElem?_inj hlt hrules).1 (hrule.trans hrule'.symm)
  exact ⟨by rw [Item.key, Item.key, hid, hdot, hdot', horigin], hstop⟩

/-- Finished slots of the same tree are the same. -/
theorem slot_eq_of_shows {i j i' j' : Nat} {slot slot' : ItemId}
    (hslot : chart.FinishedSlot r.grammar n i j slot)
    (hslot' : chart.FinishedSlot r.grammar n' i' j' slot')
    (hshows : Tree.Shows r.grammar chart slot tree)
    (hshows' : Tree.Shows r.grammar chart slot' tree) : slot = slot' := by
  obtain ⟨hmem, first, hfirst, _, hfinishes⟩ := hslot
  obtain ⟨hmem', first', hfirst', _, hfinishes'⟩ := hslot'
  obtain ⟨hkey, hstop⟩ :=
    h.same_key_of_shows hrules hfirst hfirst' hfinishes hfinishes' hshows hshows'
  obtain rfl := h.wellFormed.stop_of_mem_slotsAt hmem hfirst
  obtain rfl := h.wellFormed.stop_of_mem_slotsAt hmem' hfirst'
  have hof := h.wellFormed.slotOf?_of_mem_slotsAt hmem hfirst
  rw [hkey, hstop, h.wellFormed.slotOf?_of_mem_slotsAt hmem' hfirst'] at hof
  exact (Option.some.inj hof).symm

/-- The slots of a tiling are told by the children that fit it. -/
theorem slots_eq_of_fits {symbols : List (Symbol T N)} {slots slots' : List ItemId} {i k k' : Nat}
    {children : List (Tree T N H)} (hfits : Tree.Fits r.grammar chart symbols slots i children)
    (hfits' : Tree.Fits r.grammar chart symbols slots' i children)
    (htiles : chart.Tiles r.grammar r.tokens symbols i k slots)
    (htiles' : chart.Tiles r.grammar r.tokens symbols i k' slots') : slots = slots' := by
  induction htiles generalizing slots' k' children with
  | nil =>
    cases htiles'
    rfl
  | terminal _ _ ih =>
    cases htiles' with
    | terminal _ hrest' =>
      cases hfits with
      | terminal hrest =>
        cases hfits' with
        | terminal hfits' => exact ih hrest hfits' hrest'
  | nonterminal hslot _ ih =>
    cases htiles' with
    | nonterminal hslot' htail' =>
      obtain ⟨tree, rest, item, rfl, hitem, hshows, hrest⟩ := hfits.exists_shows
      obtain ⟨tree', rest', item', hchildren, hitem', hshows', hrest''⟩ := hfits'.exists_shows
      obtain ⟨rfl, rfl⟩ := List.cons.inj hchildren
      obtain rfl := h.slot_eq_of_shows hrules hslot hslot' hshows hshows'
      rw [hitem] at hitem'
      cases hitem'
      obtain rfl := h.wellFormed.stop_of_mem_slotsAt hslot.1 hitem
      obtain rfl := h.wellFormed.stop_of_mem_slotsAt hslot'.1 hitem
      rw [ih hrest hrest'' htail']

/-- Finished items are told apart by their trees. -/
theorem id_eq_of_shows (hitem : chart.arena[id]? = some item)
    (hitem' : chart.arena[id']? = some item') (hfinishes : item.Finishes r.grammar n)
    (hfinishes' : item'.Finishes r.grammar n') (hshows : Tree.Shows r.grammar chart id tree)
    (hshows' : Tree.Shows r.grammar chart id' tree) : id = id' := by
  obtain ⟨hkey, hstop⟩ :=
    h.same_key_of_shows hrules hitem hitem' hfinishes hfinishes' hshows hshows'
  obtain ⟨_, rule, children, hfound, hrule, hfits, rfl⟩ := hshows
  rw [hitem] at hfound
  cases hfound
  obtain ⟨_, rule', children', hfound, hrule', hfits', hsame⟩ := hshows'
  rw [hitem'] at hfound
  cases hfound
  obtain ⟨_, htiles⟩ := h.tiles_of_finishes hitem hrule hfinishes
  obtain ⟨_, htiles'⟩ := h.tiles_of_finishes hitem' hrule' hfinishes'
  have hid : item.rule = item'.rule := congrArg ItemKey.rule hkey
  have horigin : item.origin = item'.origin := congrArg ItemKey.origin hkey
  rw [← hid, hrule] at hrule'
  cases hrule'
  simp only [Tree.node.injEq] at hsame
  obtain ⟨_, rfl, _⟩ := hsame
  rw [← horigin] at hfits' htiles'
  have hpointers := h.slots_eq_of_fits hrules hfits hfits' htiles htiles'
  obtain rfl := Item.eq_of_key_eq hkey hstop hpointers
  exact h.wellFormed.id_eq_of_item_eq hitem hitem'

end Recognition.Filled

end Earley
