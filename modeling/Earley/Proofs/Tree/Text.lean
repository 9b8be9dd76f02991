import Earley.Proofs.Sequence
import Earley.Proofs.Tree.Measures
import Earley.Variable

/-!
# Reading a tree off its text

A line of the text shows the level of a node and the text of its symbol. Where no symbol has a line break or
begins with a tab, the lines can be told apart and the leading tabs are the level. The levels in turn tell
which nodes lie below a node: those up to the next one that is not deeper.
-/

namespace Earley.Tree

variable {T N H T' N' H' : Type}

/-- What a line of the text shows of a node. -/
structure Entry where
  level : Nat
  text : String

/-- The text has no line break and does not begin with a tab. -/
structure Legible (s : String) : Prop where
  newline_not_mem : '\n' ∉ s.toList
  head?_ne_tab : s.toList.head? ≠ some '\t'

instance (s : String) : Decidable (Legible s) :=
  decidable_of_iff ('\n' ∉ s.toList ∧ s.toList.head? ≠ some '\t')
    ⟨fun ⟨hnewline, htab⟩ => ⟨hnewline, htab⟩, fun ⟨hnewline, htab⟩ => ⟨hnewline, htab⟩⟩

section Lines

variable {α : Type}

/-- Lists can be told apart from what follows if neither holds the element that stands between. -/
theorem append_cons_inj_of_not_mem {a : α} {l l' rest rest' : List α} (hl : a ∉ l) (hl' : a ∉ l')
    (h : l ++ a :: rest = l' ++ a :: rest') : l = l' ∧ rest = rest' := by
  obtain ⟨_, rfl, _⟩ | ⟨before, rfl, hbefore⟩ := append_cons_eq_append_cases h
  · exact absurd (List.mem_append_right _ List.mem_cons_self) hl'
  · cases before with
    | nil => exact ⟨List.append_nil l', (List.tail_eq_of_cons_eq hbefore).symm⟩
    | cons b before =>
      obtain rfl := List.head_eq_of_cons_eq hbefore
      exact absurd (List.mem_append_right _ List.mem_cons_self) hl

/-- A run of one element can be told apart from what follows if that begins with another one. -/
theorem replicate_append_inj {a : α} {m n : Nat} {l l' : List α} (hl : l.head? ≠ some a)
    (hl' : l'.head? ≠ some a) (h : List.replicate m a ++ l = List.replicate n a ++ l') :
    m = n ∧ l = l' := by
  induction m generalizing n with
  | zero =>
    cases n with
    | zero => exact ⟨rfl, h⟩
    | succ n =>
      obtain rfl : l = a :: (List.replicate n a ++ l') := h
      exact absurd rfl hl
  | succ m ih =>
    cases n with
    | zero =>
      obtain rfl : a :: (List.replicate m a ++ l) = l' := h
      exact absurd rfl hl'
    | succ n =>
      obtain ⟨rfl, heq⟩ := ih (List.tail_eq_of_cons_eq h)
      exact ⟨rfl, heq⟩

end Lines

namespace Entry

/-- The line of an entry: a tab for each level, the text, and a line break. -/
def line (entry : Entry) : List Char :=
  List.replicate entry.level '\t' ++ entry.text.toList ++ ['\n']

/-- The first line can be read back. -/
theorem line_append_inj {entry entry' : Entry} {rest rest' : List Char} (h : Legible entry.text)
    (h' : Legible entry'.text) (heq : entry.line ++ rest = entry'.line ++ rest') :
    entry = entry' ∧ rest = rest' := by
  have hnewline : ∀ {e : Entry}, Legible e.text →
      '\n' ∉ List.replicate e.level '\t' ++ e.text.toList := by
    intro e he hmem
    obtain htab | htext := List.mem_append.1 hmem
    · cases List.eq_of_mem_replicate htab
    · exact he.newline_not_mem htext
  rw [line, line, List.append_assoc _ ['\n'], List.append_assoc _ ['\n']] at heq
  obtain ⟨hline, hrest⟩ := append_cons_inj_of_not_mem (hnewline h) (hnewline h') heq
  obtain ⟨hlevel, htext⟩ := replicate_append_inj h.head?_ne_tab h'.head?_ne_tab hline
  obtain ⟨level, text⟩ := entry
  obtain ⟨level', text'⟩ := entry'
  obtain rfl : level = level' := hlevel
  obtain rfl : text = text' := String.toList_inj.1 htext
  exact ⟨rfl, hrest⟩

/-- All lines can be read back. -/
theorem eq_of_flatMap_line_eq {entries entries' : List Entry} (h : ∀ e ∈ entries, Legible e.text)
    (h' : ∀ e ∈ entries', Legible e.text)
    (heq : entries.flatMap line = entries'.flatMap line) : entries = entries' := by
  induction entries generalizing entries' with
  | nil =>
    cases entries' with
    | nil => rfl
    | cons entry' entries' => simp [line] at heq
  | cons entry entries ih =>
    cases entries' with
    | nil => simp [line] at heq
    | cons entry' entries' =>
      rw [List.forall_mem_cons] at h h'
      rw [List.flatMap_cons, List.flatMap_cons] at heq
      obtain ⟨rfl, hrest⟩ := line_append_inj h.1 h'.1 heq
      rw [ih h.2 h'.2 hrest]

end Entry

section Entries

theorem map_fst_levelsAll (level : Nat) (ts : List (Tree T N H)) :
    (levelsAll level ts).map Prod.fst = nodesAll ts := by
  induction ts using forest_induction generalizing level with
  | nil => rfl
  | cons t ts ihchildren ihrest => simp [levelsAll_cons, ihchildren, ihrest]

variable [Printable T] [Nonterminal N] [Printable T'] [Nonterminal N']

/-- The nodes have the same text. -/
def SameText (t : Tree T N H) (u : Tree T' N' H') : Prop :=
  t.label.text = u.label.text

/-- The entries of all nodes of a forest whose roots are at `level`. -/
def entriesAll (level : Nat) (ts : List (Tree T N H)) : List Entry :=
  (levelsAll level ts).map fun (t, level) => ⟨level, t.label.text⟩

theorem entriesAll_cons (level : Nat) (t : Tree T N H) (ts : List (Tree T N H)) :
    entriesAll level (t :: ts) =
      ⟨level, t.label.text⟩ :: (entriesAll (level + 1) t.children ++ entriesAll level ts) := by
  simp only [entriesAll, levelsAll_cons, List.map_cons, List.map_append]

theorem toList_text (t : Tree T N H) : t.text.toList = (entriesAll 0 [t]).flatMap Entry.line := by
  simp [text, outline_eq, entriesAll, levelsAll, String.toList_join, List.flatMap_map, Entry.line,
    Tree.line]

theorem legible_of_mem_entriesAll {level : Nat} {ts : List (Tree T N H)}
    (h : ∀ below ∈ nodesAll ts, Legible below.label.text) {entry : Entry}
    (hentry : entry ∈ entriesAll level ts) : Legible entry.text := by
  obtain ⟨⟨below, _⟩, hmem, rfl⟩ := List.mem_map.1 hentry
  apply h
  rw [← map_fst_levelsAll level]
  exact List.mem_map_of_mem hmem

/-- What follows the entries of a forest whose roots are at `level` begins above that level. -/
def BeginsAbove (level : Nat) (entries : List Entry) : Prop :=
  ∀ entry ∈ entries.head?, entry.level < level

theorem beginsAbove_append {level : Nat} (ts : List (Tree T N H)) {rest : List Entry}
    (h : BeginsAbove level rest) : BeginsAbove (level + 1) (entriesAll level ts ++ rest) := by
  intro entry hentry
  cases ts with
  | nil => exact Nat.lt_succ_of_lt (h entry hentry)
  | cons t ts =>
    rw [entriesAll_cons] at hentry
    cases hentry
    exact Nat.lt_succ_self level

/-- A forest can be read back from its entries, up to where something begins above it. -/
theorem corresponds_of_entriesAll_eq {level : Nat} {ts : List (Tree T N H)}
    {us : List (Tree T' N' H')} {rest rest' : List Entry} (hrest : BeginsAbove level rest)
    (hrest' : BeginsAbove level rest')
    (h : entriesAll level ts ++ rest = entriesAll level us ++ rest') :
    List.Forall₂ (Corresponds SameText) ts us ∧ rest = rest' := by
  induction ts using forest_induction generalizing level us rest rest' with
  | nil =>
    cases us with
    | nil => exact ⟨.nil, h⟩
    | cons u us =>
      -- The entry of `u` is at the level of the forest, and what follows the forest begins above it.
      rw [entriesAll_cons] at h
      obtain rfl : rest = _ := h
      exact absurd (hrest _ rfl) (Nat.lt_irrefl level)
  | cons t ts ihchildren ihrest =>
    cases us with
    | nil =>
      rw [entriesAll_cons] at h
      obtain rfl : _ = rest' := h
      exact absurd (hrest' _ rfl) (Nat.lt_irrefl level)
    | cons u us =>
      rw [entriesAll_cons, entriesAll_cons, List.cons_append, List.cons_append, List.append_assoc,
        List.append_assoc] at h
      obtain ⟨hentry, htail⟩ := List.cons.inj h
      obtain ⟨hchildren, hbehind⟩ :=
        ihchildren (beginsAbove_append ts hrest) (beginsAbove_append us hrest') htail
      obtain ⟨hsiblings, heq⟩ := ihrest hrest hrest' hbehind
      exact ⟨.cons (.intro (congrArg Entry.text hentry) hchildren) hsiblings, heq⟩

theorem entriesAll_eq_of_corresponds {ts : List (Tree T N H)} {us : List (Tree T' N' H')}
    (h : List.Forall₂ (Corresponds SameText) ts us) (level : Nat) :
    entriesAll level ts = entriesAll level us := by
  induction ts using forest_induction generalizing us level with
  | nil =>
    cases h
    rfl
  | cons t ts ihchildren ihrest =>
    cases h with
    | cons hhead hsiblings =>
      obtain ⟨hroot, hchildren⟩ := hhead
      have hlabel : t.label.text = _ := hroot
      rw [entriesAll_cons, entriesAll_cons, ihchildren hchildren, ihrest hsiblings, hlabel]

/-- Two trees in which no symbol has a line break or begins with a tab have the same text if and only if they
    have the same shape with the same symbols, as far as these are told apart by their texts. -/
theorem text_eq_iff_corresponds {t : Tree T N H} {u : Tree T' N' H'}
    (ht : ∀ below ∈ t.nodes, Legible below.label.text)
    (hu : ∀ below ∈ u.nodes, Legible below.label.text) :
    t.text = u.text ↔ Corresponds SameText t u := by
  rw [← String.toList_inj, toList_text, toList_text]
  constructor
  · intro h
    have hentries : entriesAll 0 [t] = entriesAll 0 [u] := by
      refine Entry.eq_of_flatMap_line_eq (fun entry hentry => ?_) (fun entry hentry => ?_) h
      · exact legible_of_mem_entriesAll (nodesAll_singleton t ▸ ht) hentry
      · exact legible_of_mem_entriesAll (nodesAll_singleton u ▸ hu) hentry
    have hnone : BeginsAbove 0 [] := by
      intro entry hentry
      cases hentry
    obtain ⟨hforest, _⟩ := corresponds_of_entriesAll_eq hnone hnone (congrArg (· ++ []) hentries)
    exact (List.forall₂_cons.1 hforest).1
  · intro h
    rw [entriesAll_eq_of_corresponds (.cons h .nil)]

end Entries

/-- A leaf below a node without a name, below a node `S`. -/
def nested : Tree Char Variable Nat :=
  node ⟨"S"⟩ [node ⟨"#1"⟩ [leaf 'x' ⟨0, 1⟩] none none ⟨0, 1⟩] none none ⟨0, 1⟩

/-- The same with other nonterminals of the same names, other hooks and other spans. -/
def nestedAlike : Tree Char Variable Nat :=
  node ⟨"S#2"⟩ [node ⟨"#3"⟩ [leaf 'x' ⟨4, 5⟩] (some 6) none ⟨4, 5⟩] none (some 7) ⟨4, 5⟩

/-- The same symbols in the same order, but the leaf stands beside the node without a name. -/
def unnested : Tree Char Variable Nat :=
  node ⟨"S"⟩ [node ⟨"#1"⟩ [] none none ⟨0, 0⟩, leaf 'x' ⟨0, 1⟩] none none ⟨0, 1⟩

/-- The text shows the nesting, and neither hooks nor spans. -/
theorem text_eq_iff_corresponds_nested :
    ((∀ below ∈ nested.nodes, Legible below.label.text) ∧
      (∀ below ∈ nestedAlike.nodes, Legible below.label.text) ∧
      ∀ below ∈ unnested.nodes, Legible below.label.text) ∧
    (nested.text = nestedAlike.text ∧ Corresponds SameText nested nestedAlike) ∧
    nested.text ≠ unnested.text := by
  have hnested : ∀ below ∈ nested.nodes, Legible below.label.text := by decide
  have hnestedAlike : ∀ below ∈ nestedAlike.nodes, Legible below.label.text := by decide
  have hunnested : ∀ below ∈ unnested.nodes, Legible below.label.text := by decide
  have htext : nested.text = nestedAlike.text := by
    rw [text, text, outline_eq, outline_eq]
    rfl
  refine ⟨⟨hnested, hnestedAlike, hunnested⟩,
    ⟨htext, (text_eq_iff_corresponds hnested hnestedAlike).1 htext⟩, fun h => ?_⟩
  -- The root has one child in the one tree and two in the other.
  obtain ⟨_, hchildren⟩ := (text_eq_iff_corresponds hnested hunnested).1 h
  cases hchildren with
  | cons _ hrest => cases hrest

end Earley.Tree
