/-!
# Records

The form in which symbols and trees are handed to other programs: texts, numbers, lists, and
records of named fields.
-/

namespace Earley

/-- A value for interchange. -/
inductive Record where
  | text (s : String)
  | number (n : Nat)
  | list (items : List Record)
  | fields (entries : List (String × Record))

/-- Types whose values have a form for interchange. -/
class Recordable (α : Type) where
  record : α → Record

instance : Recordable Char where
  record c := .text (String.singleton c)

end Earley
