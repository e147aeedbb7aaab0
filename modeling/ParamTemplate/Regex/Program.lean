/-
**Programs that match.**

An expression is turned into a list of instructions.  A fork names two places to go on from, the
first of which is to be tried first; all other instructions go on with the one after them.  A
repetition without an upper bound loops; one whose body may be empty is entered by a fork of its
own, so that a round that matches nothing ends the repetition.

Main definitions:

* `Regex.Instr` — the instructions;
* `Regex.Expr.codeLength`, `Regex.Expr.code` — the instructions of an expression, and their number;
* `Regex.Expr.wholeCode` — the instructions with the ones that mark the match;
* `Regex.Program`, `Regex.Expr.program` — the instructions ready to be run.

Main statement:

* `Regex.Expr.length_code` — the number of instructions is as it is computed.
-/

import ParamTemplate.Regex.Expr

set_option autoImplicit false

namespace ParamTemplate.Regex

/-- An instruction. -/
inductive Instr where
  /-- Go on after the character `c`. -/
  | char (c : Char)
  /-- Go on after a character of the set. -/
  | set (set : CharSet)
  /-- Go on if the assertion holds here. -/
  | look (look : Look)
  /-- Remember this place under a number. -/
  | save (slot : Nat)
  /-- Go on at the first place; if that fails, at the second. -/
  | fork (first second : Nat)
  /-- Go on at a place. -/
  | jump (target : Nat)
  /-- The text matches. -/
  | accept
deriving DecidableEq

/-! ### Repetitions -/

/-- A fork between another round of a repetition and the end of it. -/
def repeatFork (greedy : Bool) (enter leave : Nat) : Instr :=
  if greedy then .fork enter leave else .fork leave enter

/-- Copies of some instructions, `once` of them each, one after the other from `start` on. -/
def copies (code : Nat → List Instr) (once start count : Nat) : List Instr :=
  (List.range count).flatMap fun k => code (start + k * once)

/-- The number of instructions of a repetition of a body that has `once` of them. -/
def repetitionLength (min : Nat) (max : Option Nat) (once : Nat) : Nat :=
  match min, max with
  | 0, some 1 => once + 1
  | 0, none => once + 2
  | n, none => n * once + 1
  | n, some m => n * once + (m - n) * (once + 1)

/-- The instructions of a repetition, to be placed at `start`.  `body` are those of its body, `once`
of them; `consumes` tells that the body is never empty. -/
def repetitionCode (min : Nat) (max : Option Nat) (greedy consumes : Bool) (body : Nat → List Instr)
    (once start : Nat) : List Instr :=
  match min, max with
  | 0, some 1 => repeatFork greedy (start + 1) (start + 1 + once) :: body (start + 1)
  | 0, none =>
      let fork := repeatFork greedy (start + 1) (start + once + 2)
      fork :: body (start + 1) ++ [if consumes then .jump start else fork]
  | n, none =>
      copies body once start n ++
        [repeatFork greedy (start + (n - 1) * once) (start + n * once + 1)]
  | n, some m =>
      let optional := start + n * once
      let stop := optional + (m - n) * (once + 1)
      copies body once start n ++
        copies (fun here => repeatFork greedy (here + 1) stop :: body (here + 1)) (once + 1) optional
          (m - n)

theorem length_copies {code : Nat → List Instr} {once : Nat} (start count : Nat)
    (h : ∀ here, (code here).length = once) :
    (copies code once start count).length = count * once := by
  simp [copies, List.length_flatMap, h, List.map_const']

theorem length_repetitionCode {body : Nat → List Instr} {once : Nat} (min : Nat)
    (max : Option Nat) (greedy consumes : Bool) (start : Nat)
    (h : ∀ here, (body here).length = once) :
    (repetitionCode min max greedy consumes body once start).length =
      repetitionLength min max once := by
  unfold repetitionCode repetitionLength
  split <;> simp [length_copies, h]

/-! ### Expressions -/

namespace Expr

/-- The number of instructions of an expression. -/
def codeLength : Expr → Nat
  | empty => 0
  | text chars => chars.length
  | set .. | look _ => 1
  | group _ body => body.codeLength + 2
  | repetition min max _ body => repetitionLength min max body.codeLength
  | cat left right => left.codeLength + right.codeLength
  | alt left right => left.codeLength + right.codeLength + 2

/-- **The instructions of an expression, to be placed at `start`.** -/
def code : Expr → Nat → List Instr
  | empty, _ => []
  | text chars, _ => chars.map .char
  | set _ s, _ => [.set s]
  | look k, _ => [.look k]
  | group index body, start =>
      .save (2 * index) :: body.code (start + 1) ++ [.save (2 * index + 1)]
  | repetition min max greedy body, start =>
      repetitionCode min max greedy body.consumes body.code body.codeLength start
  | cat left right, start => left.code start ++ right.code (start + left.codeLength)
  | alt left right, start =>
      let second := start + 1 + left.codeLength + 1
      .fork (start + 1) second :: left.code (start + 1) ++
        .jump (second + right.codeLength) :: right.code second

/-- **The number of instructions is as it is computed.** -/
@[simp] theorem length_code (e : Expr) (start : Nat) : (e.code start).length = e.codeLength := by
  induction e generalizing start with
  | empty => rfl
  | text chars => simp [code, codeLength]
  | set ascii s => rfl
  | look k => rfl
  | group index body ih => simp [code, codeLength, ih]
  | repetition min max greedy body ih => exact length_repetitionCode _ _ _ _ _ ih
  | cat left right ihl ihr => simp [code, codeLength, ihl, ihr]
  | alt left right ihl ihr => simp [code, codeLength, ihl, ihr]; omega

/-- The largest number of a group. -/
def maxGroup : Expr → Nat
  | empty | text _ | set .. | look _ => 0
  | group index body => Nat.max index body.maxGroup
  | repetition _ _ _ body => body.maxGroup
  | cat left right | alt left right => Nat.max left.maxGroup right.maxGroup

end Expr

/-! ### Programs -/

/-- Instructions that are run from the first one on. -/
structure Program where
  code : Array Instr
  /-- How many places of the text can be remembered. -/
  slotCount : Nat
deriving DecidableEq

/-- **The instructions of an expression, with the ones that mark the match.** -/
def Expr.wholeCode (e : Expr) : List Instr := .save 0 :: e.code 1 ++ [.save 1, .accept]

/-- The program that looks for an expression. -/
def Expr.program (e : Expr) : Program where
  code := e.wholeCode.toArray
  slotCount := 2 * (e.maxGroup + 1)

end ParamTemplate.Regex
