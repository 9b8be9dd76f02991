import Earley.Lexer.Engine
import Earley.Lexer.Error
import Earley.Symbol

/-!
# Words

Terminals for tokens that are texts: one text, one of several texts, or the texts that a pattern
matches from the first character to the last.
-/

namespace Earley

/-- The pattern that matches a text if `source` matches all of it. The source is put between the
    anchors as it stands, so one that closes the group itself escapes them. -/
def Word.anchored (source : String) : String :=
  "^(?:" ++ source ++ ")$"

/-- A terminal for tokens that are texts. -/
inductive Word (R : Type := Regex) [RegexEngine R] where
  | literal (text : String)
  | oneOf (words : List String)
  | pattern (source : String) (regex : R)
      (compiled : RegexEngine.compile? (Word.anchored source) = some regex)

namespace Word

variable {R : Type} [RegexEngine R]

/-- A source determines its compiled pattern, so words are equal as soon as they are written
    alike. -/
instance : DecidableEq (Word R)
  | literal s, literal t => decidable_of_iff (s = t) ⟨fun h => h ▸ rfl, fun h => by cases h; rfl⟩
  | oneOf s, oneOf t => decidable_of_iff (s = t) ⟨fun h => h ▸ rfl, fun h => by cases h; rfl⟩
  | pattern s r hr, pattern t q hq =>
    decidable_of_iff (s = t) ⟨
      fun h => by
        subst h
        cases hr.symm.trans hq
        rfl,
      fun h => by cases h; rfl⟩
  | literal _, oneOf _ => isFalse nofun
  | literal _, pattern _ _ _ => isFalse nofun
  | oneOf _, literal _ => isFalse nofun
  | oneOf _, pattern _ _ _ => isFalse nofun
  | pattern _ _ _, literal _ => isFalse nofun
  | pattern _ _ _, oneOf _ => isFalse nofun

/-- The word of all texts that a pattern matches in full. -/
def ofPattern (source : String) : Except LexerError (Word R) :=
  match h : RegexEngine.compile? (anchored source) with
  | none => .error .invalidPattern
  | some regex => .ok (pattern source regex h)

/-- Whether a token belongs to the word. -/
def admits (token : String) : Word R → Bool
  | literal text => text = token
  | oneOf words => words.contains token
  | pattern _ regex _ => RegexEngine.isMatch regex token

instance : Terminal (Word R) String where
  admits word token := word.admits token

/-- A literal in quotes, alternatives in braces, a pattern between slashes. -/
def text : Word R → String
  | literal text => "'" ++ text ++ "'"
  | oneOf words => "\x7b" ++ "|".intercalate words ++ "\x7d"
  | pattern source _ _ => "/" ++ source ++ "/"

/-- The form of a word that tells its kind and quotes its texts. -/
def quoted : Word R → String
  | literal text => "Literal(" ++ Quoted.text text ++ ")"
  | oneOf words => "OneOf([" ++ ", ".intercalate (words.map Quoted.text) ++ "])"
  | pattern source regex _ =>
    "Pattern \x7b source: " ++ Quoted.text source ++ ", regex: Regex(" ++
      Quoted.text (RegexEngine.pattern regex) ++ ") \x7d"

instance : Printable (Word R) where
  text := text
  quoted := quoted

instance : Recordable (Word R) where
  record word := .text word.text

end Word

end Earley
