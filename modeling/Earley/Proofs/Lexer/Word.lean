import Earley.Lexer.Word
import Earley.Proofs.Lexer.PlainPattern

/-!
# Words given by patterns

With an engine that keeps what is promised of engines, a source makes a word if it is a pattern, no comment
is open at its end, and the pattern between the anchors is within the limits; and then the word admits the
tokens that the source matches from the first character to the last. This holds of all sources that close
no group which they have not opened. Those that do escape the anchors.
-/

namespace Earley.Word

variable {R : Type} [RegexEngine R] {L : PatternLanguage} {source a b q s text : String} {i j : Nat}

theorem ofPattern_eq_ok_iff {w : Word R} :
    ofPattern source = .ok w ↔ ∃ regex h, w = pattern source regex h := by
  unfold ofPattern
  split
  case h_1 hnone =>
    constructor
    · intro h
      cases h
    · rintro ⟨regex, h, -⟩
      rw [hnone] at h
      cases h
  case h_2 regex hsome =>
    constructor
    · rintro ⟨⟩
      exact ⟨regex, hsome, rfl⟩
    · rintro ⟨other, h, rfl⟩
      obtain rfl := Option.some.inj (hsome.symm.trans h)
      rfl

theorem exists_ofPattern_iff :
    (∃ w : Word R, ofPattern source = .ok w) ↔
      (RegexEngine.compile? (anchored source) : Option R).isSome = true := by
  rw [Option.isSome_iff_exists]
  constructor
  · rintro ⟨w, hw⟩
    obtain ⟨regex, h, -⟩ := ofPattern_eq_ok_iff.1 hw
    exact ⟨regex, h⟩
  · rintro ⟨regex, h⟩
    exact ⟨_, ofPattern_eq_ok_iff.2 ⟨regex, h, rfl⟩⟩

theorem anchored_eq (source : String) : anchored source = "^" ++ ("(?:" ++ source ++ ")") ++ "$" := by
  apply String.toList_injective
  simp [anchored]

theorem anchored_eq_group (source : String) :
    anchored source = "^" ++ "(?:" ++ (source ++ ")$") := by
  apply String.toList_injective
  simp [anchored]

theorem nameless_caret : Nameless "^" := by
  simp [Nameless]

theorem nameless_dollar : Nameless "$" := by
  simp [Nameless]

/-- The parenthesis behind a source is the first that closes the group around it, or some parenthesis in the
    source is. -/
theorem eq_or_exists_of_append_eq (h : source ++ ")$" = q ++ ")" ++ s) :
    q = source ∨ ∃ t, source = q ++ ")" ++ t := by
  have hchars : source.toList ++ [')', '$'] = q.toList ++ ')' :: s.toList := by
    have := congrArg String.toList h
    simpa using this
  rcases List.append_eq_append_iff.1 hchars with ⟨more, hq, hmore⟩ | ⟨more, hsource, hmore⟩
  · left
    cases more with
    | nil =>
      apply String.toList_injective
      simpa using hq
    | cons c more => cases more <;> simp at hmore
  · cases more with
    | nil =>
      left
      apply String.toList_injective
      simpa using hsource.symm
    | cons c more =>
      right
      refine ⟨.ofList more, ?_⟩
      obtain rfl : ')' = c := (List.cons.inj hmore).1
      apply String.toList_injective
      simpa using hsource

section Laws

variable (hlaws : L.Laws)
include hlaws

theorem isSequence_anchored (h : L.Closed source) : L.IsSequence (anchored source) := by
  rw [anchored_eq]
  refine hlaws.append ?_ hlaws.dollar (.inr nameless_dollar)
  exact hlaws.append hlaws.caret (hlaws.group h) (.inl nameless_caret)

/-- Between anchors a pattern matches a part of a text if it matches all of it. -/
theorem matches_anchored_iff (h : L.Closed source) :
    L.Matches (anchored source) text i j ↔ i = 0 ∧ j = text.length ∧ L.Matches source text i j := by
  have hgroup := hlaws.group h
  have hfront : L.IsSequence ("^" ++ ("(?:" ++ source ++ ")")) :=
    hlaws.append hlaws.caret hgroup (.inl nameless_caret)
  rw [anchored_eq, hlaws.matches_append hfront hlaws.dollar (.inr nameless_dollar)]
  simp only [hlaws.matches_append hlaws.caret hgroup (.inl nameless_caret), hlaws.matches_caret,
    hlaws.matches_dollar, hlaws.matches_group h]
  constructor
  · rintro ⟨k, ⟨_, ⟨rfl, rfl⟩, hmatches⟩, rfl, rfl⟩
    exact ⟨rfl, rfl, hmatches⟩
  · rintro ⟨rfl, rfl, hmatches⟩
    exact ⟨_, ⟨0, ⟨rfl, rfl⟩, hmatches⟩, rfl, rfl⟩

/-- The group around a source is closed behind the source, unless the source closes it. -/
theorem isPattern_anchored_iff (h : ¬ L.ClosesUnopened source) :
    L.IsPattern (anchored source) ↔ L.Closed source := by
  constructor
  · intro hpattern
    rw [anchored_eq_group] at hpattern
    obtain ⟨q, s, heq, hq⟩ := hlaws.closes hlaws.caret hpattern
    rcases eq_or_exists_of_append_eq heq with rfl | ⟨t, hsource⟩
    · exact hq
    · exact absurd ⟨q, t, hsource, hq⟩ h
  · exact fun hclosed => (hlaws.closed_of_isSequence (isSequence_anchored hlaws hclosed)).1

/-- What closes a group that it has not opened is no pattern. -/
theorem not_closesUnopened_of_isPattern (h : L.IsPattern source) : ¬ L.ClosesUnopened source := by
  rintro ⟨q, s, rfl, hq⟩
  exact hlaws.unopened hq h

variable (hengine : RegexEngine.Implements R L)
include hengine

/-- A source that closes no group of its surroundings makes a word if it is a pattern that leaves nothing open
    and fits between anchors, and the word admits the tokens that the source matches from the first character to
    the last. -/
theorem ofPattern_matches_whole_tokens (source : String) (hsource : ¬ L.ClosesUnopened source) :
    ((∃ w : Word R, ofPattern source = .ok w) ↔
      L.IsPattern source ∧ ¬ L.IsPattern (source ++ ")") ∧ L.Fits (anchored source)) ∧
    ∀ w : Word R, ofPattern source = .ok w →
      ∀ token : String, w.admits token = true ↔ L.Matches source token 0 token.length := by
  have hcompiles := hengine.compile?_isSome_iff (p := anchored source)
  rw [isPattern_anchored_iff hlaws hsource] at hcompiles
  constructor
  · rw [exists_ofPattern_iff, hcompiles, PatternLanguage.Closed, and_assoc]
  · intro w hw token
    obtain ⟨regex, h, rfl⟩ := ofPattern_eq_ok_iff.1 hw
    have hclosed : L.Closed source := (hcompiles.1 (Option.isSome_of_eq_some h)).1
    rw [admits, hengine.isMatch_iff h]
    simp only [matches_anchored_iff hlaws hclosed]
    constructor
    · rintro ⟨i, j, rfl, rfl, hmatches⟩
      exact hmatches
    · exact fun hmatches => ⟨0, token.length, rfl, rfl, hmatches⟩

end Laws

theorem ofPattern_matches_whole_tokens_choice :
    PlainPattern.language.Laws ∧
      RegexEngine.Implements PlainPattern PlainPattern.language ∧
      ¬ PlainPattern.language.ClosesUnopened "a|bc" ∧
      ((∃ w : Word PlainPattern, ofPattern "a|bc" = .ok w) ↔
        PlainPattern.language.IsPattern "a|bc" ∧
          ¬ PlainPattern.language.IsPattern ("a|bc" ++ ")") ∧
          PlainPattern.language.Fits (anchored "a|bc")) ∧
      ∀ w : Word PlainPattern, ofPattern "a|bc" = .ok w →
        ∀ token : String, w.admits token = true ↔
          PlainPattern.language.Matches "a|bc" token 0 token.length := by
  have hpattern : PlainPattern.language.IsPattern "a|bc" := ⟨_, rfl⟩
  have hsource := not_closesUnopened_of_isPattern PlainPattern.laws hpattern
  exact ⟨PlainPattern.laws, PlainPattern.implements, hsource,
    ofPattern_matches_whole_tokens PlainPattern.laws PlainPattern.implements "a|bc" hsource⟩

example :
    (ofPattern "a|bc" : Except LexerError (Word PlainPattern)).toOption.map
      (fun w => [w.admits "a", w.admits "bc", w.admits "abc"]) = some [true, true, false] := by
  decide +kernel

section Escape

theorem anchored_branches (a b : String) :
    anchored (a ++ ")|(" ++ b) =
      "^" ++ ("(?:" ++ a ++ ")") ++ "|" ++ ("(" ++ b ++ ")" ++ "$") := by
  apply String.toList_injective
  simp [anchored]

/-- A source that closes the group around it, and opens another one after a bar, is no pattern, but it makes a
    word. One anchor is left to each branch: the word admits the tokens that begin with a match of the first
    branch, or end with a match of the second. -/
theorem ofPattern_escapes_anchors (hlaws : L.Laws) (hengine : RegexEngine.Implements R L)
    (ha : L.IsSequence a) (hb : L.IsSequence b) (hnames : Nameless a ∨ Nameless b)
    (hfits : L.Fits (anchored (a ++ ")|(" ++ b))) :
    (RegexEngine.compile? (a ++ ")|(" ++ b) : Option R) = none ∧
      ∃ w : Word R, ofPattern (a ++ ")|(" ++ b) = .ok w ∧
        ∀ token : String, w.admits token = true ↔
          (∃ j, L.Matches a token 0 j) ∨ ∃ i, L.Matches b token i token.length := by
  have hfirst := hlaws.group (hlaws.closed_of_isSequence ha)
  have hsecond := hlaws.capture (hlaws.closed_of_isSequence hb)
  have hfront : L.IsSequence ("^" ++ ("(?:" ++ a ++ ")")) :=
    hlaws.append hlaws.caret hfirst (.inl nameless_caret)
  have hback : L.IsSequence ("(" ++ b ++ ")" ++ "$") :=
    hlaws.append hsecond hlaws.dollar (.inr nameless_dollar)
  have hnames : Nameless ("^" ++ ("(?:" ++ a ++ ")")) ∨ Nameless ("(" ++ b ++ ")" ++ "$") := by
    simpa [Nameless] using hnames
  have hpattern : L.IsPattern (anchored (a ++ ")|(" ++ b)) := by
    rw [anchored_branches]
    exact hlaws.branch hfront hback hnames
  have hmatches (token : String) (i j : Nat) :
      L.Matches (anchored (a ++ ")|(" ++ b)) token i j ↔
        i = 0 ∧ L.Matches a token 0 j ∨ j = token.length ∧ L.Matches b token i j := by
    rw [anchored_branches, hlaws.matches_branch hfront hback hnames,
      hlaws.matches_append hlaws.caret hfirst (.inl nameless_caret),
      hlaws.matches_append hsecond hlaws.dollar (.inr nameless_dollar)]
    simp only [hlaws.matches_caret, hlaws.matches_dollar,
      hlaws.matches_group (hlaws.closed_of_isSequence ha),
      hlaws.matches_capture (hlaws.closed_of_isSequence hb)]
    grind
  constructor
  · have hnot : ¬ L.IsPattern (a ++ ")|(" ++ b) := by
      have heq : a ++ ")|(" ++ b = a ++ ")" ++ ("|(" ++ b) := by
        apply String.toList_injective
        simp
      rw [heq]
      exact hlaws.unopened (hlaws.closed_of_isSequence ha)
    rw [← Option.not_isSome_iff_eq_none, hengine.compile?_isSome_iff]
    exact fun h => hnot h.1
  · obtain ⟨regex, h⟩ :=
      Option.isSome_iff_exists.1 (hengine.compile?_isSome_iff.2 ⟨hpattern, hfits⟩)
    refine ⟨_, ofPattern_eq_ok_iff.2 ⟨regex, h, rfl⟩, fun token => ?_⟩
    rw [admits, hengine.isMatch_iff h]
    simp only [hmatches]
    constructor
    · rintro ⟨i, j, ⟨rfl, hfound⟩ | ⟨rfl, hfound⟩⟩
      · exact .inl ⟨j, hfound⟩
      · exact .inr ⟨i, hfound⟩
    · rintro (⟨j, hfound⟩ | ⟨i, hfound⟩)
      · exact ⟨0, j, .inl ⟨rfl, hfound⟩⟩
      · exact ⟨i, token.length, .inr ⟨rfl, hfound⟩⟩

theorem ofPattern_escapes_group :
    (RegexEngine.compile? "a)|(b" : Option PlainPattern) = none ∧
      ∃ w : Word PlainPattern, ofPattern "a)|(b" = .ok w ∧ w.admits "ax" = true := by
  have hletters : Nameless (String.singleton 'a') ∨ Nameless (String.singleton 'b') := by
    simp [Nameless]
  obtain ⟨hnone, w, hw, hadmits⟩ :=
    ofPattern_escapes_anchors PlainPattern.laws PlainPattern.implements
      (PlainPattern.laws.letter (c := 'a') rfl) (PlainPattern.laws.letter (c := 'b') rfl) hletters
      trivial
  have hbegins : PlainPattern.language.Matches (String.singleton 'a') "ax" 0 1 := by
    rw [PlainPattern.laws.matches_letter rfl]
    exact ⟨rfl, rfl⟩
  exact ⟨hnone, w, hw, (hadmits "ax").2 (.inl ⟨1, hbegins⟩)⟩

end Escape

end Earley.Word
