/-
**A run of the program.**

A run compiles the template first, then explains it if that is asked for; otherwise it reads the
texts, evaluates them and prints one block for each, and a summary if there are several.  It ends
with 0 if all texts matched, with 1 if some did not, and with 2 if something was wrong.

Main definitions:

* `CommandLine.Result` — what is left of a run;
* `CommandLine.RunError`, `CommandLine.RunError.message` — what was wrong, and the wording;
* `CommandLine.block` — what is printed for a text;
* `CommandLine.runOptions`, `CommandLine.run` — a run with options, and with arguments;
* `CommandLine.demand` — what a run reads.
-/

import ParamTemplate.CommandLine.Options
import ParamTemplate.CommandLine.Source
import ParamTemplate.Report

set_option autoImplicit false

namespace ParamTemplate.CommandLine

open Template (Evaluation)

/-- What is left of a run: its code and what was printed. -/
structure Result where
  code : Nat
  stdout : List Char := []
  stderr : List Char := []
deriving DecidableEq, Repr

/-- What was wrong in a run. -/
inductive RunError where
  /-- The template is refused. -/
  | template (text : List Char) (error : Template.Error)
  /-- There are no texts. -/
  | texts (error : ReadError)

/-- The wording of an error.  That of a template ends with its cause, which it has told before. -/
def RunError.message : RunError → List Char
  | template text error =>
      "invalid template '".toList ++ text ++ "': ".toList ++ error.message ++ ": ".toList ++
        error.cause.message
  | texts error => error.message

/-- Whether the run is reported in colour. -/
def Options.color (options : Options) (surroundings : Surroundings) : Bool :=
  surroundings.color && !options.noColor

/-- **What is printed for a text.** -/
def block (options : Options) (evaluation : Evaluation) : Text.Styled :=
  if options.json then Report.recordLine evaluation else Report.evaluation evaluation

/-- Whether there is a summary after so many texts. -/
def Options.summarizes (options : Options) (total : Nat) : Bool :=
  !options.json && options.param?.isNone && 1 < total

/-- What is printed for evaluations. -/
def report (options : Options) (evaluations : List Evaluation) : Text.Styled :=
  let matched := evaluations.countP Evaluation.isMatch
  let summary :=
    if options.summarizes evaluations.length then Report.summary matched evaluations.length else []
  evaluations.flatMap (block options) ++ summary

/-- The code and the output for evaluations. -/
def conclude (options : Options) (color : Bool) (evaluations : List Evaluation) : Result where
  code := if evaluations.all Evaluation.isMatch then 0 else 1
  stdout := (report options evaluations).render color

/-- A run with options, or what was wrong in it. -/
def attempt (options : Options) (surroundings : Surroundings) : Except RunError Result :=
  let color := options.color surroundings
  match Template.compile options.template with
  | .error error => .error (.template options.template error)
  | .ok template =>
      if options.explain then .ok { code := 0, stdout := (Report.explain template).render color }
      else
        match readTexts surroundings options.texts options.input? with
        | .error error => .error (.texts error)
        | .ok texts =>
            let evaluations :=
              template.evaluateShared options.mode options.sequential surroundings.division texts
            .ok (conclude options color evaluations)

/-- **A run with options.** -/
def runOptions (options : Options) (surroundings : Surroundings) : Result :=
  match attempt options surroundings with
  | .ok result => result
  | .error error =>
      { code := 2, stderr := "parmatch: ".toList ++ error.message ++ ['\n'] }

/-- **A run with arguments.** -/
def run (arguments : List (List Char)) (surroundings : Surroundings) : Result :=
  match read arguments with
  | .ok options => runOptions options surroundings
  | .error .help => { code := 0, stdout := help }
  | .error .version => { code := 0, stdout := versionLine }
  | .error (.error error) => { code := 2, stderr := error.render }

/-! ### What a run reads -/

/-- What a run reads besides its arguments. -/
inductive Demand where
  | nothing
  | file (path : List Char)
  | stdin
deriving DecidableEq, Repr

/-- What a run with options reads. -/
def Options.demand (options : Options) : Demand :=
  if options.explain || !options.texts.isEmpty || !(Template.compile options.template).isOk then
    .nothing
  else
    match options.input? with
    | some path => .file path
    | none => .stdin

/-- What a run with arguments reads. -/
def demand (arguments : List (List Char)) : Demand :=
  match read arguments with
  | .ok options => options.demand
  | .error _ => .nothing

end ParamTemplate.CommandLine
