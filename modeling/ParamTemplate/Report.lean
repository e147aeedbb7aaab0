/-
**What is printed.**

Templates are explained, evaluations are printed as text or as records, and after several of them
there is a summary.

Main definitions:

* `Report.explain` — the segments and the expression of a template;
* `Report.evaluation` — an evaluation as text;
* `Report.record`, `Report.recordLine` — an evaluation as a record;
* `Report.summary` — how many texts matched.
-/

import ParamTemplate.Template.Evaluation
import ParamTemplate.Text.Json
import ParamTemplate.Text.Quoted
import ParamTemplate.Text.Styled

set_option autoImplicit false

namespace ParamTemplate.Report

open Template (Evaluation Outcome Segment)
open Text (Json Styled)
open Text.Styled (raw styled)

/-! ### Templates -/

/-- The number of a group after a mark, with blanks after it up to three digits. -/
def indexLabel (index : Nat) : List Char :=
  let digits := Regex.decimal index
  "  #".toList ++ digits ++ List.replicate (3 - digits.length) ' '

/-- How many groups there are inside of a placeholder; nothing if there are none. -/
def nested (groups : Nat) : Styled :=
  if 0 < groups then styled .dim ("  (+".toList ++ Regex.decimal groups ++ " nested)".toList) else []

/-- A segment on a line of its own. -/
def segmentLine (segment : Segment) : Styled :=
  match segment.kind with
  | .placeholder name index =>
      styled .cyan (indexLabel index) ++ raw (name ++ " = ".toList) ++ styled .yellow segment.body ++
        nested (segment.groupCount?.getD 0) ++ raw ['\n']
  | .literal =>
      styled .dim "  text".toList ++
        raw (' ' :: ' ' :: Text.Quoted.quote segment.body ++ ['\n'])

/-- A heading with what belongs to it. -/
def headingLine (heading gap : String) (content : List Char) : Styled :=
  styled .bold heading.toList ++ raw (gap.toList ++ content ++ ['\n'])

/-- **The segments and the expression of a template.** -/
def explain (template : Template) : Styled :=
  headingLine "template" "  " template.text ++
    headingLine "regex" "     " template.source ++
    headingLine "params" "    " (Regex.decimal template.paramCount) ++
    template.segments.flatMap segmentLine

/-! ### Evaluations -/

/-- A text on a line, with a mark in front that tells whether it matched. -/
def markedLine (isMatch : Bool) (text : List Char) : Styled :=
  (if isMatch then styled .green ['✓'] else styled .red ['✗']) ++ raw (' ' :: text ++ ['\n'])

/-- A name and a value on a line. -/
def pairLine (pair : List Char × List Char) : Styled :=
  styled .dim ("    ".toList ++ pair.1 ++ " = ".toList) ++ raw (pair.2 ++ ['\n'])

/-- **An evaluation as text.**  Where one value was asked for and the text matched, the value is
printed alone; a line stays empty if there is none. -/
def evaluation (e : Evaluation) : Styled :=
  match e.outcome with
  | .value (some value?) => raw (value?.getD [] ++ ['\n'])
  | .params (some pairs) => markedLine true e.text ++ pairs.flatMap pairLine
  | outcome => markedLine outcome.isMatch e.text

/-- What a record has besides the text and whether it matched. -/
def answerFields : Outcome → List (List Char × Json)
  | .found _ => []
  | .value value? => [("value".toList, (value?.join.map Json.text).getD .null)]
  | .params pairs? =>
      let table := Text.tableOf (pairs?.getD [])
      [("params".toList, .object (table.map fun pair => (pair.1, .text pair.2)))]

/-- **An evaluation as a record,** with its fields in the order of their names. -/
def record (e : Evaluation) : Json :=
  let matched := ("matched".toList, Json.bool e.isMatch)
  let text := ("text".toList, Json.text e.text)
  match e.outcome with
  | .value _ => .object (matched :: text :: answerFields e.outcome)
  | _ => .object (matched :: answerFields e.outcome ++ [text])

/-- A record on a line of its own. -/
def recordLine (e : Evaluation) : Styled := raw ((record e).render ++ ['\n'])

/-- **How many texts matched,** after an empty line. -/
def summary (matched total : Nat) : Styled :=
  let counts := Regex.decimal matched ++ '/' :: Regex.decimal total ++ " matched".toList
  raw ['\n'] ++ styled (if matched = total then .green else .red) counts ++ raw ['\n']

end ParamTemplate.Report
