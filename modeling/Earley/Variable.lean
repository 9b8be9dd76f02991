import Earley.Symbol

/-!
# Nonterminals written as text

The whole text tells two variables apart. What stands before the first `#` is the name, so that
variants of one category, such as `Noun#singular` and `Noun#plural`, share the name `Noun`.
-/

namespace Earley

/-- A nonterminal given by a text. -/
structure Variable where
  id : String
deriving DecidableEq, Repr

namespace Variable

/-- The text up to the first `#`, or all of it where there is none. -/
def name (v : Variable) : String :=
  String.ofList (v.id.toList.takeWhile (· ≠ '#'))

instance : Nonterminal Variable where
  name := name

instance : Recordable Variable where
  record v := .text v.id

end Variable

end Earley
