/-
**Regular expressions.**

A text is accepted as an expression if it can be read, has a meaning and does not become too large.
An accepted expression finds its preferred match in a text: the one that starts first and, of those,
the one that the order of choices prefers.

Main definitions:

* `Regex` — an expression that was accepted;
* `Regex.Error`, `Regex.Error.message` — why a text is refused, and the wording;
* `Regex.compile` — accept or refuse a text;
* `Regex.groupCount`, `Regex.isMatch`, `Regex.captures?` — what is asked of an expression;
* `Regex.Captures.group?` — what a group matched.
-/

import ParamTemplate.Regex.Diagnostic
import ParamTemplate.Regex.Footprint
import ParamTemplate.Regex.Meaning
import ParamTemplate.Regex.Reader
import ParamTemplate.Regex.Search

set_option autoImplicit false

namespace ParamTemplate

/-- An expression that was accepted. -/
structure Regex where
  /-- The text that it was read from. -/
  source : List Char
  /-- Its meaning. -/
  expr : Regex.Expr
  /-- What is run over a text. -/
  program : Regex.Program

namespace Regex

/-! ### Acceptance -/

/-- Why a text is refused. -/
inductive Error where
  /-- The text is no expression. -/
  | refused (source : List Char) (complaint : Complaint)
  /-- The expression is too large. -/
  | tooLarge

/-- The wording of an error. -/
def Error.message : Error → List Char
  | refused source complaint => complaint.render source
  | tooLarge => s!"Compiled regex exceeds size limit of {sizeLimit} bytes.".toList

/-- The meaning of a text with the flags that are in force at the start, or what is wrong with it. -/
def Expr.read (source : List Char) : Except Complaint Expr := do
  let pattern ← Pattern.read source
  let (expr, _) ← pattern.meaning {}
  return expr

/-- **Accept or refuse a text as an expression.** -/
def compile (source : List Char) : Except Error Regex :=
  match Expr.read source with
  | .error complaint => .error (.refused source complaint)
  | .ok expr =>
      if expr.isTooLarge then .error .tooLarge else .ok { source, expr, program := expr.program }

theorem source_of_compile {source : List Char} {regex : Regex} (h : compile source = .ok regex) :
    regex.source = source := by
  unfold compile at h
  split at h
  · cases h
  · split at h
    · cases h
    · cases h
      rfl

/-! ### Questions -/

/-- The number of groups. -/
def groupCount (regex : Regex) : Nat := regex.expr.groupCount

/-- The number of groups of a text that is accepted. -/
def groupCount? (source : List Char) : Option Nat := (compile source).toOption.map groupCount

/-- A match in a text. -/
structure Captures where
  text : List Char
  slots : Slots
deriving DecidableEq

/-- What a group matched, if it took part in the match. -/
def Captures.group? (captures : Captures) (index : Nat) : Option (List Char) :=
  match captures.slots[2 * index]?.join, captures.slots[2 * index + 1]?.join with
  | some start, some stop => some ((captures.text.take stop).drop start)
  | _, _ => none

/-- The preferred match in a text. -/
def captures? (regex : Regex) (text : List Char) : Option Captures :=
  (regex.program.search text).map fun slots => { text, slots }

/-- Whether there is a match in a text. -/
def isMatch (regex : Regex) (text : List Char) : Bool := (regex.captures? text).isSome

end Regex

end ParamTemplate
