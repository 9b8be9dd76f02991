import Earley.Regex.Expr

/-!
# Programs

A regular expression as instructions, for a search that keeps to preferences. The instructions of an
expression stand one after another and are entered at the first; a match leaves them for the
instruction that follows.
-/

namespace Earley.Regex

/-- The number of an instruction in its program. -/
abbrev Address := Nat

/-- An instruction. -/
inductive Instruction where
  /-- Go on if the next character belongs to the set, behind that character. -/
  | consume (chars : CharSet) (next : Address)
  /-- Go on if the condition holds. -/
  | require (condition : Anchor) (next : Address)
  /-- Go on at `first` or, by second preference, at `second`. -/
  | fork (first second : Address)
  | goto (next : Address)
  /-- A match ends here. -/
  | accept
deriving DecidableEq, Repr

/-- Instructions in the order of their addresses. -/
abbrev Code := Array Instruction

/-- A fork into a loop's body and its exit. -/
def branch (greedy : Bool) (body exit : Address) : Instruction :=
  if greedy then .fork body exit else .fork exit body

namespace Expr

/-- The number of instructions of an expression. -/
def codeSize : Expr → Nat
  | empty => 1
  | literal text => Nat.max 1 text.length
  | set _ => 1
  | anchor _ => 1
  | seq a b => a.codeSize + b.codeSize
  | choice a b => a.codeSize + b.codeSize + 1
  | group _ body => body.codeSize
  | loop body min max _ =>
    match max with
    | none =>
      match min with
      | 0 => if body.alwaysConsumes then body.codeSize + 1 else body.codeSize + 2
      | min + 1 => (min + 1) * body.codeSize + 1
    | some max =>
      if max = 0 then 1 else min * body.codeSize + (max - min) * (body.codeSize + 1)

/-- Appends the instructions that match a text. -/
def emitText (code : Code) (next : Address) : List Char → Code
  | [] => code.push (.goto next)
  | [c] => code.push (.consume (.single c) next)
  | c :: cs => emitText (code.push (.consume (.single c) (code.size + 1))) next cs

/-- Appends `count` copies of a body of `size` instructions, one after another. -/
def emitCopies (emit : Code → Address → Code) (size : Nat) (code : Code) (next : Address) :
    Nat → Code
  | 0 => code
  | 1 => emit code next
  | count + 1 => emitCopies emit size (emit code (code.size + size)) next count

/-- Appends `count` copies of a body of `size` instructions, in front of each of which a match may
    leave for `next`. -/
def emitOptional (emit : Code → Address → Code) (size : Nat) (greedy : Bool) (code : Code)
    (next : Address) : Nat → Code
  | 0 => code
  | count + 1 =>
    let code := code.push (branch greedy (code.size + 1) next)
    let code := emit code (if count = 0 then next else code.size + size)
    emitOptional emit size greedy code next count

/-- Appends the instructions of an expression, which lead to `next`. A body that can match the empty
    text is not entered twice at one place, so such a loop first decides whether to enter its body
    at all, and then after each round whether to enter it again. -/
def emit : Expr → Code → Address → Code
  | empty, code, next => code.push (.goto next)
  | literal text, code, next => emitText code next text
  | set chars, code, next => code.push (.consume chars next)
  | anchor condition, code, next => code.push (.require condition next)
  | seq a b, code, next => b.emit (a.emit code (code.size + a.codeSize)) next
  | choice a b, code, next =>
    let code := code.push (.fork (code.size + 1) (code.size + 1 + a.codeSize))
    b.emit (a.emit code next) next
  | group _ body, code, next => body.emit code next
  | loop body min max greedy, code, next =>
    let size := body.codeSize
    let base := code.size
    match max with
    | none =>
      match min with
      | 0 =>
        let enter := branch greedy (base + 1) next
        if body.alwaysConsumes then body.emit (code.push enter) base
        else (body.emit (code.push enter) (base + 1 + size)).push enter
      | min + 1 =>
        let last := base + min * size
        let code := emitCopies body.emit size code last min
        (body.emit code (last + size)).push (branch greedy last next)
    | some max =>
      if max = 0 then code.push (.goto next)
      else
        let rest := base + min * size
        let code := emitCopies body.emit size code (if max = min then next else rest) min
        emitOptional body.emit size greedy code next (max - min)

/-- The program of an expression. It is entered at address zero. -/
def program (e : Expr) : Code :=
  (e.emit #[] e.codeSize).push .accept

end Expr

end Earley.Regex
