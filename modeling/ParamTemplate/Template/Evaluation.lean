/-
**Evaluating texts.**

A text can be asked whether the template occurs in it, for the value of one placeholder or for the
values of all.  Only the first question looks anywhere in the text; for the others all of it has to
conform.

Several texts can be shared out among workers.  The list of texts is halved as often as workers
happen to be free, and the answers of the halves are put together in the order of the texts.

Main definitions:

* `Template.Mode` — the questions;
* `Template.Outcome`, `Template.Outcome.isMatch` — the answers, and whether a text matched;
* `Template.Evaluation`, `Template.evaluate` — a text with its answer;
* `Template.Division` — how texts are shared out;
* `Template.evaluateAll`, `Template.evaluateShared` — texts with their answers, one after the other
  and shared out.
-/

import ParamTemplate.Template

set_option autoImplicit false

namespace ParamTemplate.Template

/-- What is asked about a text. -/
inductive Mode where
  /-- Whether the template occurs in it. -/
  | check
  /-- The value of the first placeholder with a name. -/
  | param (name : List Char)
  /-- Names and values of all placeholders. -/
  | params
deriving DecidableEq

/-- An answer; without a match there are no values. -/
inductive Outcome where
  | found (isFound : Bool)
  | value (value? : Option (Option (List Char)))
  | params (pairs? : Option Text.Pairs)
deriving DecidableEq

/-- Whether a text matched. -/
def Outcome.isMatch : Outcome → Bool
  | found isFound => isFound
  | value value? => value?.isSome
  | params pairs? => pairs?.isSome

/-- A text with its answer. -/
structure Evaluation where
  text : List Char
  outcome : Outcome
deriving DecidableEq

/-- Whether the text of an evaluation matched. -/
def Evaluation.isMatch (evaluation : Evaluation) : Bool := evaluation.outcome.isMatch

/-- The answer for a text. -/
def outcome (template : Template) (text : List Char) : Mode → Outcome
  | .check => .found (template.occursIn text)
  | .param name => .value ((template.parameters? text).map (·.get? name))
  | .params => .params ((template.parameters? text).map (·.pairs))

/-- **A text with its answer.** -/
def evaluate (template : Template) (mode : Mode) (text : List Char) : Evaluation where
  text := text
  outcome := template.outcome text mode

/-- Texts with their answers, one after the other. -/
def evaluateAll (template : Template) (mode : Mode) (texts : List (List Char)) : List Evaluation :=
  texts.map (template.evaluate mode)

/-! ### Sharing out -/

/-- How texts are shared out: not at all, or in two halves that may be shared out further. -/
inductive Division where
  | whole
  | halves (left right : Division)
deriving DecidableEq, Repr

/-- Texts with their answers, where the texts are shared out.  A single text is not divided. -/
def evaluateDivided (template : Template) (mode : Mode) :
    Division → List (List Char) → List Evaluation
  | .whole, texts => template.evaluateAll mode texts
  | .halves left right, texts =>
      let middle := texts.length / 2
      if middle = 0 then template.evaluateAll mode texts
      else
        template.evaluateDivided mode left (texts.take middle) ++
          template.evaluateDivided mode right (texts.drop middle)

/-- **Texts with their answers.**  The texts are shared out unless that is forbidden or there is
only one. -/
def evaluateShared (template : Template) (mode : Mode) (sequential : Bool) (division : Division)
    (texts : List (List Char)) : List Evaluation :=
  if sequential || texts.length = 1 then template.evaluateAll mode texts
  else template.evaluateDivided mode division texts

end ParamTemplate.Template
