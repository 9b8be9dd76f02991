import Earley.Regex.Pattern.Flags
import Earley.Unicode.Alphabetic
import Earley.Unicode.Numeric

/-!
# The beginning of a group

A parenthesis opens a group, which remembers what it matches and may have a name, or which has flags
of its own. Or it encloses flags for the rest of the group around it.
-/

namespace Earley.Regex

/-- What an opening parenthesis begins. -/
inductive GroupStart where
  /-- A group that remembers what it matches, by this name if it has one. -/
  | capture (name? : Option String)
  /-- A group with these flags. -/
  | plain (flags : Flags)
  /-- Flags for the rest of the group around it. -/
  | directive (flags : Flags)

/-- Whether a character can begin the name of a group. -/
def isNameStart (c : Char) : Bool :=
  c = '_' || Unicode.alphabetic.covers c.toNat

/-- Whether a character can stand in the name of a group. -/
def isNamePart (c : Char) : Bool :=
  isNameStart c || Unicode.numeric.covers c.toNat || c = '.' || c = '[' || c = ']'

/-- Reads the name of a group up to the closing angle bracket. -/
def readGroupName (names : List String) (rest : List Char) :
    Except PatternError (String × List Char) :=
  match rest.takeWhile (· ≠ '>'), rest.dropWhile (· ≠ '>') with
  | first :: others, _ :: rest =>
    if isNameStart first && others.all isNamePart then
      let name := String.ofList (first :: others)
      if names.contains name then .error .groupNameDuplicate else .ok (name, rest)
    else .error .groupNameInvalid
  | _, _ => .error .groupNameMissing

/-- Reads the beginning of a group after its parenthesis. `names` are the names taken. -/
def readGroupStart (flags : Flags) (names : List String) (rest : List Char) :
    Except PatternError (GroupStart × List Char) :=
  match skip flags rest with
  | '?' :: '=' :: _ => .error .lookAround
  | '?' :: '!' :: _ => .error .lookAround
  | '?' :: '<' :: '=' :: _ => .error .lookAround
  | '?' :: '<' :: '!' :: _ => .error .lookAround
  | '?' :: 'P' :: '<' :: rest => do
    let (name, rest) ← readGroupName names rest
    return (.capture (some name), rest)
  | '?' :: '<' :: rest => do
    let (name, rest) ← readGroupName names rest
    return (.capture (some name), rest)
  | '?' :: ')' :: _ => .error .repetitionMissing
  | '?' :: rest => do
    let (inner, stop, rest) ← readFlags flags [] false false rest
    return (if stop = ')' then .directive inner else .plain inner, rest)
  | rest => .ok (.capture none, rest)

end Earley.Regex
