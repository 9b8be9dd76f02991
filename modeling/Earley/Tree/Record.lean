import Earley.Tree.Basic

/-!
# Trees as records

A tree is handed on as its symbol, its children and the tokens it covers. Hooks stay behind.
-/

namespace Earley

instance : Recordable Span where
  record span := .fields [("start", .number span.start), ("end", .number span.stop)]

namespace Tree

variable {T N H : Type} [Recordable T] [Recordable N]

mutual

def record : Tree T N H → Record
  | leaf t span =>
    .fields [
      ("label", Recordable.record (Symbol.terminal t : Symbol T N)),
      ("children", .list []),
      ("span", Recordable.record span)]
  | node n children _ _ span =>
    .fields [
      ("label", Recordable.record (Symbol.nonterminal n : Symbol T N)),
      ("children", .list (recordAll children)),
      ("span", Recordable.record span)]

def recordAll : List (Tree T N H) → List Record
  | [] => []
  | t :: ts => record t :: recordAll ts

end

instance : Recordable (Tree T N H) where
  record := record

end Tree

end Earley
