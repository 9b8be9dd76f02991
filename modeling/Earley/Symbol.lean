import Earley.Record
import Earley.Text.Quoted

/-!
# Symbols

A production is a sequence of symbols. A terminal decides for itself which tokens belong to it, and
that is the only place where tokens are looked at. A nonterminal has a name, which serves messages
and dumps; nonterminals are told apart by equality, so that two of them may share a name.
-/

namespace Earley

/-- Nonterminals have a name. -/
class Nonterminal (N : Type) where
  name : N → String

/-- Terminals of type `T` decide which tokens of type `Tok` belong to them. -/
class Terminal (T Tok : Type) where
  admits : T → Tok → Bool

/-- Terminals can be printed: as they are for readers of a tree, and quoted for readers of a
    chart. -/
class Printable (T : Type) where
  text : T → String
  quoted : T → String

/-- A character admits itself. -/
instance : Terminal Char Char where
  admits c token := c == token

instance : Printable Char where
  text c := String.singleton c
  quoted c := Quoted.char c

/-- A symbol of a production. -/
inductive Symbol (T N : Type) where
  | terminal (t : T)
  | nonterminal (n : N)
deriving DecidableEq, Repr

namespace Symbol

variable {T N : Type}

def isTerminal : Symbol T N → Bool
  | terminal _ => true
  | nonterminal _ => false

def terminal? : Symbol T N → Option T
  | terminal t => some t
  | nonterminal _ => none

def nonterminal? : Symbol T N → Option N
  | terminal _ => none
  | nonterminal n => some n

/-- The terminal as it is, or the name of the nonterminal. -/
def text [Printable T] [Nonterminal N] : Symbol T N → String
  | terminal t => Printable.text t
  | nonterminal n => Nonterminal.name n

/-- The quoted terminal, or the name of the nonterminal. -/
def quoted [Printable T] [Nonterminal N] : Symbol T N → String
  | terminal t => Printable.quoted t
  | nonterminal n => Nonterminal.name n

instance [Recordable T] [Recordable N] : Recordable (Symbol T N) where
  record
    | terminal t => .fields [("Terminal", Recordable.record t)]
    | nonterminal n => .fields [("NonTerminal", Recordable.record n)]

end Symbol

end Earley
