import Earley.Proofs.Lexer.Engine
import Earley.Proofs.Regex.Matches

/-!
# Plain patterns

Plain patterns consist of letters, anchors, branches and groups. They are read character by character, with
the groups that are open on a stack, so what has been read of a pattern does not depend on what comes behind
it, and reading inside of a group goes on as outside of it. The engine of plain patterns keeps all that is
promised of engines.

Main statements: `PlainPattern.laws` and `PlainPattern.implements`.
-/

namespace Earley

namespace PlainPattern

open Regex

/-- A part of a group. -/
inductive Part where
  | piece (e : Expr)
  /-- The bar between two branches. -/
  | bar

/-- The branches between the bars. -/
def branches : List Part → List (List Expr)
  | [] => [[]]
  | .piece e :: parts => (branches parts).modifyHead (e :: ·)
  | .bar :: parts => [] :: branches parts

/-- The expression of a group that has these parts. -/
def body (parts : List Part) : Expr :=
  .choiceAll ((branches parts).map .seqAll)

/-- How much of the beginning of a group has been read last. -/
inductive Stage where
  /-- Nothing, or all of it. -/
  | inside
  /-- Its parenthesis. -/
  | opened
  /-- Its parenthesis and a question mark. -/
  | asked

/-- A pattern that has been read up to some place. -/
structure Reading where
  stage : Stage
  /-- The parts of the groups that are open, those of the innermost first. -/
  groups : List (List Part)
  /-- The parts outside of all groups. -/
  outside : List Part

namespace Reading

/-- Nothing has been read. -/
def start : Reading :=
  ⟨.inside, [], []⟩

/-- Adds a part to the innermost group. -/
def push (r : Reading) (part : Part) : Reading :=
  match r.groups with
  | [] => ⟨.inside, [], r.outside ++ [part]⟩
  | parts :: groups => ⟨.inside, (parts ++ [part]) :: groups, r.outside⟩

/-- Closes the innermost group. -/
def close (r : Reading) : Option Reading :=
  match r.groups with
  | [] => none
  | parts :: groups => some (push ⟨.inside, groups, r.outside⟩ (.piece (body parts)))

/-- The part that a character stands for. -/
def part? (c : Char) : Option Part :=
  if c = '|' then some .bar
  else if c = '^' then some (.piece (.anchor .textStart))
  else if c = '$' then some (.piece (.anchor .textEnd))
  else if c.isAlpha then some (.piece (.literal [c]))
  else none

/-- Reads a character where a part can begin. -/
def stepInside (r : Reading) (c : Char) : Option Reading :=
  if c = '(' then some ⟨.opened, [] :: r.groups, r.outside⟩
  else if c = ')' then r.close
  else (part? c).map r.push

/-- Reads a character. -/
def step (r : Reading) (c : Char) : Option Reading :=
  match r.stage with
  | .inside => r.stepInside c
  | .opened => if c = '?' then some { r with stage := .asked } else r.stepInside c
  | .asked => if c = ':' then some { r with stage := .inside } else none

/-- Reads characters one after another. -/
def read (r : Reading) (chars : List Char) : Option Reading :=
  chars.foldlM step r

/-- The reading that has come from `frame` to where `r` has come from the start. -/
def onto (r frame : Reading) : Reading :=
  match frame.groups with
  | [] => ⟨r.stage, r.groups, frame.outside ++ r.outside⟩
  | parts :: groups => ⟨r.stage, r.groups ++ (parts ++ r.outside) :: groups, frame.outside⟩

variable {r next frame : Reading} {c : Char} {chars more : List Char}

theorem read_cons : r.read (c :: chars) = (r.step c).bind fun next => next.read chars :=
  List.foldlM_cons

theorem read_append : r.read (chars ++ more) = (r.read chars).bind fun next => next.read more :=
  List.foldlM_append

theorem step_of_inside (h : r.stage = .inside) : r.step c = r.stepInside c := by
  rw [step, h]

theorem step_of_opened (h : r.stage = .opened) :
    r.step c = if c = '?' then some { r with stage := .asked } else r.stepInside c := by
  rw [step, h]

theorem step_of_asked (h : r.stage = .asked) :
    r.step c = if c = ':' then some { r with stage := .inside } else none := by
  rw [step, h]

theorem onto_of_groups_nil (h : frame.groups = []) :
    r.onto frame = ⟨r.stage, r.groups, frame.outside ++ r.outside⟩ := by
  simp [onto, h]

theorem start_onto (h : frame.stage = .inside) : start.onto frame = frame := by
  obtain ⟨stage, groups, outside⟩ := frame
  cases groups <;> simp_all [onto, start]

theorem push_onto (part : Part) : (r.push part).onto frame = (r.onto frame).push part := by
  obtain ⟨_, groups, outside⟩ := r
  obtain ⟨_, groups', outside'⟩ := frame
  cases groups <;> cases groups' <;> simp [push, onto]

theorem close_onto (h : r.close = some next) : (r.onto frame).close = some (next.onto frame) := by
  obtain ⟨stage, groups, outside⟩ := r
  cases groups with
  | nil => cases h
  | cons parts groups =>
    cases h
    rw [push_onto]
    obtain ⟨_, groups', outside'⟩ := frame
    cases groups' <;> simp [close, onto]

theorem stepInside_onto (h : r.stepInside c = some next) :
    (r.onto frame).stepInside c = some (next.onto frame) := by
  unfold stepInside at h ⊢
  split_ifs at h ⊢
  · cases h
    obtain ⟨_, groups', outside'⟩ := frame
    cases groups' <;> simp [onto]
  · exact close_onto h
  · obtain ⟨part, hpart, rfl⟩ := Option.map_eq_some_iff.1 h
    simp [hpart, push_onto]

theorem stage_onto : (r.onto frame).stage = r.stage := by
  unfold onto
  split <;> rfl

theorem withStage_onto (stage : Stage) :
    ({ r with stage } : Reading).onto frame = { r.onto frame with stage } := by
  unfold onto
  split <;> rfl

theorem groups_onto_ne_nil (h : frame.groups ≠ []) : (r.onto frame).groups ≠ [] := by
  unfold onto
  split
  · rename_i hnil
    exact absurd hnil h
  · simp

theorem step_onto (h : r.step c = some next) : (r.onto frame).step c = some (next.onto frame) := by
  cases hstage : r.stage with
  | inside =>
    rw [step_of_inside hstage] at h
    rw [step_of_inside (stage_onto.trans hstage)]
    exact stepInside_onto h
  | opened =>
    rw [step_of_opened hstage] at h
    rw [step_of_opened (stage_onto.trans hstage)]
    split_ifs at h ⊢
    · cases h
      exact congrArg some (withStage_onto .asked).symm
    · exact stepInside_onto h
  | asked =>
    rw [step_of_asked hstage] at h
    rw [step_of_asked (stage_onto.trans hstage)]
    split_ifs at h ⊢
    cases h
    exact congrArg some (withStage_onto .inside).symm

/-- What is open around a pattern does not change how it is read. -/
theorem read_onto (frame : Reading) (h : r.read chars = some next) :
    (r.onto frame).read chars = some (next.onto frame) := by
  induction chars generalizing r with
  | nil =>
    cases h
    rfl
  | cons c chars ih =>
    rw [read_cons] at h ⊢
    obtain ⟨between, hstep, hread⟩ := Option.bind_eq_some_iff.1 h
    rw [step_onto hstep, Option.bind_some]
    exact ih hread

/-- Outside of all groups no beginning of a group is being read. -/
def Settled (r : Reading) : Prop :=
  r.groups = [] → r.stage = .inside

theorem settled_push (part : Part) : (r.push part).Settled := by
  intro _
  unfold push
  split <;> rfl

theorem settled_of_stepInside (h : r.stepInside c = some next) : next.Settled := by
  unfold stepInside at h
  split_ifs at h
  · cases h
    exact fun hnil => absurd hnil (List.cons_ne_nil _ _)
  · unfold close at h
    split at h
    · cases h
    · cases h
      exact settled_push _
  · obtain ⟨part, _, rfl⟩ := Option.map_eq_some_iff.1 h
    exact settled_push part

theorem Settled.step (hr : r.Settled) (h : r.step c = some next) : next.Settled := by
  cases hstage : r.stage with
  | inside =>
    rw [step_of_inside hstage] at h
    exact settled_of_stepInside h
  | opened =>
    rw [step_of_opened hstage] at h
    split_ifs at h
    · cases h
      intro hnil
      rw [hr hnil] at hstage
      cases hstage
    · exact settled_of_stepInside h
  | asked =>
    rw [step_of_asked hstage] at h
    split_ifs at h
    cases h
    exact fun _ => rfl

theorem stepInside_cases (hnone : r.stepInside c = none)
    (hsome : (r.onto frame).stepInside c = some next) : c = ')' ∧ r.groups = [] := by
  unfold stepInside at hnone hsome
  split_ifs at hnone hsome with hopen hclose
  · refine ⟨hclose, ?_⟩
    unfold close at hnone
    split at hnone
    · assumption
    · cases hnone
  · rw [Option.map_eq_none_iff] at hnone
    rw [hnone] at hsome
    cases hsome

/-- A character that can be read inside of a group only is the parenthesis that closes the group. -/
theorem step_cases (hnone : r.step c = none) (hsome : (r.onto frame).step c = some next) :
    c = ')' ∧ r.groups = [] := by
  cases hstage : r.stage with
  | inside =>
    rw [step_of_inside hstage] at hnone
    rw [step_of_inside (stage_onto.trans hstage)] at hsome
    exact stepInside_cases hnone hsome
  | opened =>
    rw [step_of_opened hstage] at hnone
    rw [step_of_opened (stage_onto.trans hstage)] at hsome
    split_ifs at hnone hsome
    exact stepInside_cases hnone hsome
  | asked =>
    rw [step_of_asked hstage] at hnone
    rw [step_of_asked (stage_onto.trans hstage)] at hsome
    split_ifs at hnone hsome

/-- A group that is read to its end is closed at some place, and until then it is read like a pattern. -/
theorem exists_close (hr : r.Settled) (hframe : frame.groups ≠ [])
    (h : (r.onto frame).read chars = some next) (hnext : next.groups = []) :
    ∃ q s outside, chars = q ++ ')' :: s ∧ r.read q = some ⟨.inside, [], outside⟩ := by
  induction chars generalizing r with
  | nil =>
    cases h
    exact absurd hnext (groups_onto_ne_nil hframe)
  | cons c chars ih =>
    rw [read_cons] at h
    obtain ⟨between, hstep, hread⟩ := Option.bind_eq_some_iff.1 h
    cases hinner : r.step c with
    | none =>
      obtain ⟨rfl, hgroups⟩ := step_cases hinner hstep
      obtain ⟨stage, groups, outside⟩ := r
      obtain rfl : groups = [] := hgroups
      obtain rfl : stage = .inside := hr rfl
      exact ⟨[], chars, outside, rfl, rfl⟩
    | some inner =>
      rw [step_onto hinner, Option.some.injEq] at hstep
      subst hstep
      obtain ⟨q, s, outside, rfl, hq⟩ := ih (hr.step hinner) hread
      refine ⟨c :: q, s, outside, rfl, ?_⟩
      rw [read_cons, hinner, Option.bind_some, hq]

end Reading

/-- The pattern has these parts. -/
def Denotes (p : String) (parts : List Part) : Prop :=
  Reading.start.read p.toList = some ⟨.inside, [], parts⟩

section Denotes

open Reading

variable {a b p s text : String} {parts others : List Part} {c : Char} {i j : Nat}

theorem Denotes.unique (h : Denotes p parts) (h' : Denotes p others) : parts = others := by
  unfold Denotes at h h'
  rw [h] at h'
  cases h'
  rfl

theorem Denotes.append (ha : Denotes a parts) (hb : Denotes b others) :
    Denotes (a ++ b) (parts ++ others) := by
  have hread := read_onto ⟨.inside, [], parts⟩ hb
  rw [start_onto rfl] at hread
  unfold Denotes at ha ⊢
  rw [String.toList_append, read_append, ha, Option.bind_some, hread, onto_of_groups_nil rfl]

theorem denotes_bar : Denotes "|" [.bar] :=
  rfl

/-- A pattern in a group that has just been opened. -/
theorem read_group (hp : Denotes p parts) :
    (⟨.inside, [[]], []⟩ : Reading).read (p.toList ++ [')']) =
      some ⟨.inside, [], [.piece (body parts)]⟩ := by
  have hread := read_onto ⟨.inside, [[]], []⟩ hp
  rw [start_onto rfl] at hread
  rw [read_append, hread]
  rfl

theorem Denotes.group (hp : Denotes p parts) :
    Denotes ("(?:" ++ p ++ ")") [.piece (body parts)] := by
  have hchars : ("(?:" ++ p ++ ")").toList = ['(', '?', ':'] ++ (p.toList ++ [')']) := by simp
  unfold Denotes
  rw [hchars, read_append, ← read_group hp]
  rfl

theorem ne_question_of_denotes (hp : Denotes p parts) {chars : List Char}
    (h : p.toList ++ [')'] = c :: chars) : c ≠ '?' := by
  rintro rfl
  unfold Denotes at hp
  cases hchars : p.toList with
  | nil => simp [hchars] at h
  | cons d chars =>
    rw [hchars, List.cons_append, List.cons.injEq] at h
    rw [hchars, h.1] at hp
    cases hp

/-- What begins with something else than a question mark is read inside of a capturing group as inside of
    any other. -/
theorem Denotes.capture (hp : Denotes p parts) :
    Denotes ("(" ++ p ++ ")") [.piece (body parts)] := by
  have hchars : ("(" ++ p ++ ")").toList = '(' :: (p.toList ++ [')']) := by simp
  have hfirst : (⟨.opened, [[]], []⟩ : Reading).read (p.toList ++ [')']) =
      (⟨.inside, [[]], []⟩ : Reading).read (p.toList ++ [')']) := by
    cases hrest : p.toList ++ [')'] with
    | nil => simp at hrest
    | cons c chars =>
      have hc := ne_question_of_denotes hp hrest
      have hstep : (⟨.opened, [[]], []⟩ : Reading).step c =
          (⟨.inside, [[]], []⟩ : Reading).step c := by
        rw [step_of_opened rfl, step_of_inside rfl, if_neg hc]
        rfl
      rw [read_cons, read_cons, hstep]
  unfold Denotes
  rw [hchars, read_cons, ← read_group hp, ← hfirst]
  rfl

theorem not_denotes_of_unopened (hp : Denotes p parts) : ¬ Denotes (p ++ ")" ++ s) others := by
  intro h
  have hchars : (p ++ ")" ++ s).toList = p.toList ++ ')' :: s.toList := by simp
  unfold Denotes at hp h
  rw [hchars, read_append, hp, Option.bind_some, read_cons] at h
  cases h

/-- The parenthesis that closes a group behind a pattern. -/
theorem Denotes.exists_close (ha : Denotes a parts) (h : Denotes (a ++ "(?:" ++ s) others) :
    ∃ q t inner, s = q ++ ")" ++ t ∧ Denotes q inner := by
  have hchars : (a ++ "(?:" ++ s).toList = a.toList ++ (['(', '?', ':'] ++ s.toList) := by simp
  have hgroup : (⟨.inside, [], parts⟩ : Reading).read (['(', '?', ':'] ++ s.toList) =
      (start.onto ⟨.inside, [[]], parts⟩).read s.toList := by
    rw [read_append, start_onto rfl]
    rfl
  unfold Denotes at ha h
  rw [hchars, read_append, ha, Option.bind_some, hgroup] at h
  obtain ⟨q, t, inner, hrest, hq⟩ :=
    Reading.exists_close (fun _ => rfl) (List.cons_ne_nil _ _) h rfl
  refine ⟨.ofList q, .ofList t, inner, ?_, ?_⟩
  · apply String.toList_injective
    simp [hrest]
  · unfold Denotes
    rw [String.toList_ofList]
    exact hq

end Denotes

section Matches

variable {es fs : List Expr} {text : Array Char} {i j : Nat}

theorem branches_pieces (es : List Expr) : branches (es.map .piece) = [es] := by
  induction es with
  | nil => rfl
  | cons e es ih => simp [branches, ih]

theorem branches_pieces_bar (es : List Expr) (parts : List Part) :
    branches (es.map .piece ++ .bar :: parts) = es :: branches parts := by
  induction es with
  | nil => rfl
  | cons e es ih => simp [branches, ih]

theorem body_pieces (es : List Expr) : body (es.map .piece) = .seqAll es := by
  rw [body, branches_pieces]
  rfl

theorem body_pieces_bar (es fs : List Expr) :
    body (es.map .piece ++ .bar :: fs.map .piece) = .choice (.seqAll es) (.seqAll fs) := by
  rw [body, branches_pieces_bar, branches_pieces]
  rfl

theorem matches_seqAll_cons_iff (e : Expr) (es : List Expr) :
    (Expr.seqAll (e :: es)).Matches text i j ↔
      ∃ k, e.Matches text i k ∧ (Expr.seqAll es).Matches text k j := by
  cases es with
  | nil => simp [Expr.seqAll, Expr.Matches]
  | cons => rfl

theorem matches_seqAll_append_iff (es fs : List Expr) :
    (Expr.seqAll (es ++ fs)).Matches text i j ↔
      ∃ k, (Expr.seqAll es).Matches text i k ∧ (Expr.seqAll fs).Matches text k j := by
  induction es generalizing i with
  | nil => simp [Expr.seqAll, Expr.Matches]
  | cons e es ih =>
    simp only [List.cons_append, matches_seqAll_cons_iff, ih]
    constructor
    · rintro ⟨l, he, k, hes, hfs⟩
      exact ⟨k, ⟨l, he, hes⟩, hfs⟩
    · rintro ⟨k, ⟨l, he, hes⟩, hfs⟩
      exact ⟨l, he, k, hes, hfs⟩

theorem matches_letter_iff {c : Char} :
    (Expr.literal [c]).Matches text i j ↔ text[i]? = some c ∧ j = i + 1 := by
  rw [Expr.matches_literal_cons_iff]
  simp [Expr.Matches]

theorem matches_textStart_iff (hi : i ≤ text.size) :
    (Expr.anchor .textStart).Matches text i j ↔ i = 0 ∧ j = 0 := by
  simp only [Expr.Matches, Anchor.holds, before?]
  split_ifs with hzero
  · simp [hzero, eq_comm]
  · have hlt : i - 1 < text.size := by omega
    simp [hzero, hlt]

theorem matches_textEnd_iff (hi : i ≤ text.size) :
    (Expr.anchor .textEnd).Matches text i j ↔ i = text.size ∧ j = text.size := by
  simp only [Expr.Matches, Anchor.holds, after?, decide_eq_true_eq, Array.getElem?_eq_none_iff]
  omega

end Matches

/-- The language of plain patterns. -/
def language : PatternLanguage where
  IsPattern p := ∃ parts, Denotes p parts
  IsSequence p := ∃ es : List Expr, Denotes p (es.map .piece)
  Fits _ := True
  Matches p text i j :=
    ∃ parts, Denotes p parts ∧ i ≤ text.length ∧ (body parts).Matches text.toList.toArray i j

section Laws

variable {a b p text : String} {parts : List Part} {es fs : List Expr} {i j : Nat}

theorem size_chars (text : String) : text.toList.toArray.size = text.length := by
  rw [List.size_toArray, String.length_toList]

theorem matches_iff (h : Denotes p parts) :
    language.Matches p text i j ↔
      i ≤ text.length ∧ (body parts).Matches text.toList.toArray i j := by
  constructor
  · rintro ⟨others, hothers, hmatches⟩
    rw [h.unique hothers]
    exact hmatches
  · exact fun hmatches => ⟨parts, h, hmatches⟩

theorem matches_iff_of_pieces (h : Denotes p (es.map .piece)) :
    language.Matches p text i j ↔
      i ≤ text.length ∧ (Expr.seqAll es).Matches text.toList.toArray i j := by
  rw [matches_iff h, body_pieces]

theorem closed_iff : language.Closed p ↔ ∃ parts, Denotes p parts := by
  constructor
  · exact fun h => h.1
  · rintro ⟨parts, hp⟩
    refine ⟨⟨parts, hp⟩, ?_⟩
    rintro ⟨others, hothers⟩
    rw [← String.append_empty (s := p ++ ")")] at hothers
    exact not_denotes_of_unopened hp hothers

theorem part?_letter {c : Char} (hc : c.isAlpha) :
    Reading.part? c = some (.piece (.literal [c])) := by
  have hne (d : Char) (hd : d.isAlpha = false) : c ≠ d := by
    rintro rfl
    simp [hd] at hc
  simp [Reading.part?, hne '|' rfl, hne '^' rfl, hne '$' rfl, hc]

theorem denotes_letter {c : Char} (hc : c.isAlpha) :
    Denotes (String.singleton c) ([Expr.literal [c]].map .piece) := by
  have hopen : c ≠ '(' := by
    rintro rfl
    cases hc
  have hclose : c ≠ ')' := by
    rintro rfl
    cases hc
  unfold Denotes
  simp [Reading.read_cons, Reading.step, Reading.stepInside, hopen, hclose, part?_letter hc]
  rfl

theorem denotes_caret : Denotes "^" ([Expr.anchor .textStart].map .piece) :=
  rfl

theorem denotes_dollar : Denotes "$" ([Expr.anchor .textEnd].map .piece) :=
  rfl

theorem denotes_append (ha : Denotes a (es.map .piece)) (hb : Denotes b (fs.map .piece)) :
    Denotes (a ++ b) ((es ++ fs).map .piece) := by
  rw [List.map_append]
  exact ha.append hb

theorem denotes_branch (ha : Denotes a (es.map .piece)) (hb : Denotes b (fs.map .piece)) :
    Denotes (a ++ "|" ++ b) (es.map .piece ++ .bar :: fs.map .piece) := by
  rw [← List.singleton_append (x := Part.bar), ← List.append_assoc]
  exact (ha.append denotes_bar).append hb

theorem laws : language.Laws where
  closed_of_isSequence := by
    rintro a ⟨es, ha⟩
    exact closed_iff.2 ⟨_, ha⟩
  letter hc := ⟨_, denotes_letter hc⟩
  caret := ⟨_, denotes_caret⟩
  dollar := ⟨_, denotes_dollar⟩
  append := by
    rintro a b ⟨es, ha⟩ ⟨fs, hb⟩ -
    exact ⟨_, denotes_append ha hb⟩
  branch := by
    rintro a b ⟨es, ha⟩ ⟨fs, hb⟩ -
    exact ⟨_, denotes_branch ha hb⟩
  group := by
    rintro p ⟨⟨parts, hp⟩, -⟩
    exact ⟨[body parts], hp.group⟩
  capture := by
    rintro p ⟨⟨parts, hp⟩, -⟩
    exact ⟨[body parts], hp.capture⟩
  closes := by
    rintro a rest ⟨es, ha⟩ ⟨parts, h⟩
    obtain ⟨q, s, inner, heq, hq⟩ := ha.exists_close h
    exact ⟨q, s, heq, closed_iff.2 ⟨inner, hq⟩⟩
  unopened := by
    rintro p s ⟨⟨parts, hp⟩, -⟩ ⟨others, hothers⟩
    exact not_denotes_of_unopened hp hothers
  matches_letter := by
    intro c text i j hc
    rw [matches_iff_of_pieces (denotes_letter hc), Expr.seqAll, matches_letter_iff]
    simp only [List.getElem?_toArray]
    constructor
    · exact fun h => h.2
    · intro h
      have hi : i < text.toList.length := (List.getElem?_eq_some_iff.1 h.1).1
      rw [String.length_toList] at hi
      exact ⟨Nat.le_of_lt hi, h⟩
  matches_caret := by
    intro text i j
    rw [matches_iff_of_pieces denotes_caret, Expr.seqAll]
    constructor
    · rintro ⟨hi, h⟩
      exact (matches_textStart_iff (size_chars text ▸ hi)).1 h
    · rintro ⟨rfl, rfl⟩
      exact ⟨Nat.zero_le _, (matches_textStart_iff (Nat.zero_le _)).2 ⟨rfl, rfl⟩⟩
  matches_dollar := by
    intro text i j
    rw [matches_iff_of_pieces denotes_dollar, Expr.seqAll, ← size_chars text]
    constructor
    · rintro ⟨hi, h⟩
      exact (matches_textEnd_iff hi).1 h
    · rintro ⟨rfl, rfl⟩
      exact ⟨Nat.le_refl _, (matches_textEnd_iff (Nat.le_refl _)).2 ⟨rfl, rfl⟩⟩
  matches_append := by
    rintro a b text i j ⟨es, ha⟩ ⟨fs, hb⟩ -
    simp only [matches_iff_of_pieces (denotes_append ha hb), matches_iff_of_pieces ha,
      matches_iff_of_pieces hb, matches_seqAll_append_iff, ← size_chars text]
    constructor
    · rintro ⟨hi, k, hes, hfs⟩
      exact ⟨k, ⟨hi, hes⟩, hes.le hi, hfs⟩
    · rintro ⟨k, ⟨hi, hes⟩, -, hfs⟩
      exact ⟨hi, k, hes, hfs⟩
  matches_branch := by
    rintro a b text i j ⟨es, ha⟩ ⟨fs, hb⟩ -
    rw [matches_iff (denotes_branch ha hb), matches_iff_of_pieces ha, matches_iff_of_pieces hb,
      body_pieces_bar]
    exact and_or_left
  matches_group := by
    rintro p text i j ⟨⟨parts, hp⟩, -⟩
    rw [matches_iff hp.group, matches_iff hp]
    rfl
  matches_capture := by
    rintro p text i j ⟨⟨parts, hp⟩, -⟩
    rw [matches_iff hp.capture, matches_iff hp]
    rfl

end Laws

end PlainPattern

/-- A compiled plain pattern. -/
structure PlainPattern where
  source : String
  parts : List PlainPattern.Part
  denotes : PlainPattern.Denotes source parts

namespace PlainPattern

open Regex

/-- Compiles a plain pattern. -/
def compile? (source : String) : Option PlainPattern :=
  match h : Reading.start.read source.toList with
  | some ⟨.inside, [], parts⟩ => some ⟨source, parts, h⟩
  | _ => none

instance : RegexEngine PlainPattern where
  compile? := compile?
  pattern := source
  isMatch p text := (body p.parts).isMatch text
  split p text := (body p.parts).split text

theorem compile?_of_denotes {source : String} {parts : List Part} (h : Denotes source parts) :
    compile? source = some ⟨source, parts, h⟩ := by
  unfold compile?
  split
  · rename_i others hothers
    obtain rfl := h.unique hothers
    rfl
  · rename_i hnone
    exact absurd h (hnone parts)

theorem source_of_compile? {source : String} {p : PlainPattern} (h : compile? source = some p) :
    p.source = source := by
  unfold compile? at h
  split at h
  · cases h
    rfl
  · cases h

theorem implements : RegexEngine.Implements PlainPattern language where
  compile?_isSome_iff := by
    intro source
    constructor
    · intro h
      obtain ⟨p, hp⟩ := Option.isSome_iff_exists.1 h
      exact ⟨⟨p.parts, source_of_compile? hp ▸ p.denotes⟩, trivial⟩
    · rintro ⟨⟨parts, h⟩, -⟩
      exact Option.isSome_iff_exists.2 ⟨_, compile?_of_denotes h⟩
  isMatch_iff := by
    intro source text p h
    obtain rfl := source_of_compile? h
    simp only [matches_iff p.denotes, ← size_chars text]
    exact Expr.matchesSomewhere_iff _ _

end PlainPattern

end Earley
