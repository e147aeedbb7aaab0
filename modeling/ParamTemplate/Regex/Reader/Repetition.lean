/-
**Reading repetitions.**

A repetition operator takes the last item of the sequence as its operand; a question mark right
after it makes it lazy.  In a counted repetition the two numbers may stand between blanks, and each
number is judged only when it is known that the repetition has the right form so far.

Main definitions:

* `Regex.Reader.takeOperand` — take the operand off the sequence at hand;
* `Regex.Reader.repeat`, `Regex.Reader.repeatCounted` — put a repetition in its place;
* `Regex.Number.value` — the value of a number, or what is wrong with it.
-/

import ParamTemplate.Regex.Reader.Basic

set_option autoImplicit false

namespace ParamTemplate.Regex

/-- The largest count. -/
def countLimit : Nat := 4294967295

/-- The value of a number that ends at a place, or what is wrong with it. -/
def Number.value (number : Number) (stop : Position) : Except Complaint Nat :=
  match number with
  | .blank => .error { fault := .countMissing, span := .point stop }
  | .digits start ds =>
      let value := ds.foldr (fun c n => 10 * n + (c.toNat - '0'.toNat)) 0
      if value ≤ countLimit then .ok value
      else .error { fault := .countInvalid, span := ⟨start, stop⟩ }

/-- The number with one more digit, which stands at a place. -/
def Number.push (number : Number) (pos : Position) (c : Char) : Number :=
  match number with
  | .blank => .digits pos [c]
  | .digits start ds => .digits start (c :: ds)

/-- Whether the character `c` still belongs to a number: blanks in front of it do, and digits. -/
def Number.continues (number : Number) (c : Char) : Bool :=
  c.isDigit || match number with
    | .blank => Unicode.isBlank c
    | .digits .. => false

/-- The number after the character `c` at a place, which belongs to it. -/
def Number.feed (number : Number) (pos : Position) (c : Char) : Number :=
  if c.isDigit then number.push pos c else number

namespace Reader

/-- Take the operand of a repetition off the sequence at hand. -/
def takeOperand (s : Reader) : Except Complaint (Pattern × Reader) :=
  match s.level.items with
  | item :: items =>
      if item.isRepeatable then .ok (item, { s with level := { s.level with items } })
      else refuse .operandMissing (.point s.pos)
  | [] => refuse .operandMissing (.point s.pos)

/-- Put a repetition that ends at the place reached into the sequence at hand. -/
def pushRepetition (s : Reader) (body : Pattern) (min : Nat) (max : Option Nat) (greedy : Bool) :
    Reader :=
  s.push (.repetition (body.span.upTo s.pos) min max greedy body)

/-- Put a counted repetition that ends at the place reached into the sequence at hand, if its bounds
are in order. -/
def pushCounted (s : Reader) (counted : Counted) (min : Nat) (max : Option Nat) (greedy : Bool) :
    Except Complaint Reader :=
  match max with
  | some n =>
      if min ≤ n then .ok (s.pushRepetition counted.body min max greedy)
      else refuse .countRangeInvalid ⟨counted.start, s.pos⟩
  | none => .ok (s.pushRepetition counted.body min max greedy)

/-- Refuse an expression that ends inside a counted repetition, or goes on in a wrong way there. -/
def countUnclosed {α : Type} (s : Reader) (counted : Counted) : Except Complaint α :=
  refuse .countUnclosed ⟨counted.start, s.pos⟩

/-- An operator of one character, with the bounds that it stands for. -/
def startRepetition (s : Reader) (min : Nat) (max : Option Nat) : Except Complaint Reader := do
  let (body, s) ← s.takeOperand
  return s.pass (.afterOperator body min max)

/-- The brace of a counted repetition. -/
def startCount (s : Reader) : Except Complaint Reader := do
  let start := s.pos
  let (body, s) ← s.takeOperand
  return s.pass (.minimum { start, body } .blank)

/-- What follows the first number: a comma, or the closing brace of an exact count. -/
def feedAfterMinimum (s : Reader) (counted : Counted) (min : Except Complaint Nat) (c : Char) :
    Except Complaint Reader := do
  if Unicode.isBlank c then return s.pass (.afterMinimum counted min)
  if c = ',' then return s.pass (.afterComma counted min)
  let n ← min
  if c = '}' then return s.pass (.afterCount counted n (some n))
  s.countUnclosed counted

/-- What follows the second number: the closing brace. -/
def feedAfterMaximum (s : Reader) (counted : Counted) (min max : Nat) (c : Char) :
    Except Complaint Reader :=
  if Unicode.isBlank c then .ok (s.pass (.afterMaximum counted min max))
  else if c = '}' then .ok (s.pass (.afterCount counted min (some max)))
  else s.countUnclosed counted

end Reader

end ParamTemplate.Regex
