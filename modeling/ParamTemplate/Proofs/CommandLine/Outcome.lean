/-
**What a run ends with.**

A run ends with 2 and a message if its template is refused, or if it needs texts and cannot read
them.  A template that is only explained needs none.  Otherwise one block is printed for each text,
and a summary behind them where several texts are asked for more than one value.

The answers are the same however texts are shared out, and styles are not written where there is no
colour; so neither matters for what is printed.

Main definitions:

* `CommandLine.refusal` — the result of a run in which something was wrong;
* `CommandLine.printed`, `CommandLine.tally` — what is printed for a text, and behind all texts.

Main result:

* `CommandLine.run_outcome` — **the code and the output of a run.**
-/

import ParamTemplate.CommandLine.Run
import ParamTemplate.Proofs.Regex.Relabelling
import ParamTemplate.Proofs.Template.Evaluating

set_option autoImplicit false

namespace ParamTemplate.CommandLine

open Template (Evaluation Mode Division)

/-! ### What is printed -/

/-- The result of a run in which something was wrong. -/
def refusal (error : RunError) : Result where
  code := 2
  stdout := []
  stderr := "parmatch: ".toList ++ error.message ++ ['\n']

/-- **What is printed for a text,** as a record or not, in colour or not. -/
def printed (template : Template) (mode : Mode) (json color : Bool) (text : List Char) :
    List Char :=
  let evaluation := template.evaluate mode text
  (if json then Report.recordLine evaluation else Report.evaluation evaluation).render color

/-- How many texts match. -/
def matchCount (template : Template) (mode : Mode) (texts : List (List Char)) : Nat :=
  texts.countP fun text => (template.evaluate mode text).isMatch

/-- **What is printed behind all texts,** in colour or not. -/
def tally (template : Template) (mode : Mode) (color : Bool) (texts : List (List Char)) :
    List Char :=
  (Report.summary (matchCount template mode texts) texts.length).render color

/-- Without colour the tally is an empty line and a line with two numbers. -/
theorem tally_of_plain (template : Template) (mode : Mode) (texts : List (List Char)) :
    tally template mode false texts = '\n' :: Regex.decimal (matchCount template mode texts) ++
      '/' :: Regex.decimal texts.length ++ " matched\n".toList := by
  simp [tally, Report.summary, Text.Styled.raw, Text.Styled.styled, Text.Styled.renderMark]

theorem render_flatMap {α : Type} (color : Bool) (items : List α) (item : α → Text.Styled) :
    Text.Styled.render color (items.flatMap item) =
      items.flatMap fun x => (item x).render color := List.flatMap_assoc

section Conclude

variable (template : Template) (options : Options) (color : Bool) (texts : List (List Char))

/-- The code tells whether all texts match. -/
theorem code_conclude :
    (conclude options color (texts.map (template.evaluate options.mode))).code =
      if ∀ text ∈ texts, (template.evaluate options.mode text).isMatch then 0 else 1 := by
  simp only [conclude, List.all_map, List.all_eq_true, Function.comp_apply]

/-- The output is one block for each text and the tally. -/
theorem stdout_conclude :
    (conclude options color (texts.map (template.evaluate options.mode))).stdout =
      texts.flatMap (printed template options.mode options.json color) ++
        if options.json = false ∧ options.param? = none ∧ 2 ≤ texts.length then
          tally template options.mode color texts
        else [] := by
  have summarizes : options.summarizes texts.length = true ↔
      options.json = false ∧ options.param? = none ∧ 2 ≤ texts.length := by
    simp [Options.summarizes, and_assoc, Nat.succ_le_iff]
  have blocks : (texts.map (template.evaluate options.mode)).flatMap
        (fun evaluation => (block options evaluation).render color) =
      texts.flatMap (printed template options.mode options.json color) := by
    rw [List.flatMap_map]
    rfl
  rw [conclude, report, Text.Styled.render_append, render_flatMap, blocks, List.length_map,
    List.countP_map]
  by_cases several : options.summarizes texts.length = true
  · rw [if_pos several, if_pos (summarizes.1 several)]
    rfl
  · rw [if_neg several, if_neg fun h => several (summarizes.2 h)]
    rfl

end Conclude

/-! ### Runs with options -/

variable {options : Options} {surroundings : Surroundings} {template : Template}
  {texts : List (List Char)}

theorem runOptions_of_refused {error : Template.Error}
    (h : Template.compile options.template = .error error) :
    runOptions options surroundings = refusal (.template options.template error) := by
  simp only [runOptions, attempt, h]
  rfl

/-- A template that is explained needs no texts. -/
theorem runOptions_of_explain (compiled : Template.compile options.template = .ok template)
    (explain : options.explain = true) : runOptions options surroundings =
      { code := 0, stdout := (Report.explain template).render (options.color surroundings) } := by
  simp only [runOptions, attempt, compiled, explain, if_true]

theorem runOptions_of_unread {error : ReadError}
    (compiled : Template.compile options.template = .ok template) (explain : options.explain = false)
    (unread : readTexts surroundings options.texts options.input? = .error error) :
    runOptions options surroundings = refusal (.texts error) := by
  simp only [runOptions, attempt, compiled, explain, unread, Bool.false_eq_true, if_false]
  rfl

/-- **A run that answers:** however texts are shared out, the answers are those of the texts one by
one. -/
theorem runOptions_of_texts (compiled : Template.compile options.template = .ok template)
    (explain : options.explain = false)
    (hread : readTexts surroundings options.texts options.input? = .ok texts) :
    runOptions options surroundings = conclude options (options.color surroundings)
      (texts.map (template.evaluate options.mode)) := by
  simp only [runOptions, attempt, compiled, explain, hread, Bool.false_eq_true, if_false,
    Template.evaluateShared_eq_map]

/-- **The code of a run** says how far it got, and whether all texts match. -/
theorem code_runOptions (options : Options) (surroundings : Surroundings) :
    (runOptions options surroundings).code =
      match Template.compile options.template with
      | .error _ => 2
      | .ok template =>
          if options.explain then 0
          else
            match readTexts surroundings options.texts options.input? with
            | .error _ => 2
            | .ok texts =>
                if ∀ text ∈ texts, (template.evaluate options.mode text).isMatch then 0 else 1 := by
  cases compiled : Template.compile options.template with
  | error error =>
      rw [runOptions_of_refused compiled]
      rfl
  | ok template =>
      cases explain : options.explain with
      | true =>
          rw [runOptions_of_explain compiled explain]
          rfl
      | false =>
          cases hread : readTexts surroundings options.texts options.input? with
          | error error =>
              rw [runOptions_of_unread compiled explain hread]
              rfl
          | ok texts =>
              rw [runOptions_of_texts compiled explain hread, code_conclude]
              rfl

/-- **Without colour, neither the switches for it and for sharing out nor the sharing out itself
change a run.** -/
theorem runOptions_congr (plain : surroundings.color = false) (sequential noColor : Bool)
    (division : Division) :
    runOptions { options with sequential, noColor } { surroundings with division } =
      runOptions options surroundings := by
  have here : options.color surroundings = false := by simp [Options.color, plain]
  have there : ({ options with sequential, noColor } : Options).color
      { surroundings with division } = false := by simp [Options.color, plain]
  simp only [runOptions, attempt, Template.evaluateShared_eq_map, here, there]
  rfl

/-! ### Runs with arguments -/

variable {arguments : List (List Char)}

theorem run_of_read (parsed : read arguments = .ok options) (surroundings : Surroundings) :
    run arguments surroundings = runOptions options surroundings := by
  simp only [run, parsed]

/-- **The code and the output of a run.**  A template that is refused is complained about first; a
template that is explained needs no texts; texts that cannot be read are complained about next.
Otherwise the code tells whether all texts match, and what is printed is one block for each text, in
order, and the tally if neither records nor one value are asked for and there are at least two
texts.  Without colour, the switches for colour and for sharing out change nothing. -/
theorem run_outcome (parsed : read arguments = .ok options) (surroundings : Surroundings) :
    let result := run arguments surroundings
    let color := surroundings.color && !options.noColor
    (∀ error, Template.compile options.template = .error error →
      result = refusal (.template options.template error)) ∧
    (∀ template, Template.compile options.template = .ok template →
      (options.explain = true →
        result = { code := 0, stdout := (Report.explain template).render color, stderr := [] }) ∧
      (options.explain = false →
        (∀ error, readTexts surroundings options.texts options.input? = .error error →
          result = refusal (.texts error)) ∧
        ∀ texts, readTexts surroundings options.texts options.input? = .ok texts →
          result.stderr = [] ∧
          result.code = (if ∀ text ∈ texts, (template.evaluate options.mode text).isMatch
            then 0 else 1) ∧
          result.stdout = texts.flatMap (printed template options.mode options.json color) ++
            if options.json = false ∧ options.param? = none ∧ 2 ≤ texts.length then
              tally template options.mode color texts
            else [])) ∧
    (surroundings.color = false → ∀ arguments' sequential noColor division,
      read arguments' = .ok { options with sequential, noColor } →
        run arguments' { surroundings with division } = result) := by
  intro result color
  have same : result = runOptions options surroundings := run_of_read parsed surroundings
  refine ⟨fun error refused => ?_, fun template compiled => ⟨fun explain => ?_, fun explain =>
    ⟨fun error unread => ?_, fun texts hread => ?_⟩⟩, fun plain arguments' sequential noColor
      division parsed' => ?_⟩
  · rw [same, runOptions_of_refused refused]
  · rw [same, runOptions_of_explain compiled explain]
    rfl
  · rw [same, runOptions_of_unread compiled explain unread]
  · rw [same, runOptions_of_texts compiled explain hread]
    exact ⟨rfl, code_conclude template options _ texts, stdout_conclude template options _ texts⟩
  · rw [same, run_of_read parsed', runOptions_congr plain]

/-- Of two texts one matches, and the tally tells so. -/
theorem run_outcome_of_letters :
    ∃ options, read ["{{n,a}}".toList, ['a'], ['b']] = .ok options ∧
      ∀ surroundings : Surroundings, surroundings.color = false →
        run ["{{n,a}}".toList, ['a'], ['b']] surroundings =
          { code := 1, stdout := "✓ a\n    n = a\n✗ b\n\n1/2 matched\n".toList } := by
  obtain ⟨options, parsed, htemplate, htexts, explain, json, param, mode⟩ :
      ∃ options, read ["{{n,a}}".toList, ['a'], ['b']] = .ok options ∧
        options.template = "{{n,a}}".toList ∧ options.texts = [['a'], ['b']] ∧
        options.explain = false ∧ options.json = false ∧ options.param? = none ∧
        options.mode = .params := Regex.exists_eq_ok (by decide +kernel)
  obtain ⟨template, compiled, hsome, hblocks, htally⟩ :
      ∃ template, Template.compile "{{n,a}}".toList = .ok template ∧
        (∃ text ∈ [['a'], ['b']], ¬(template.evaluate .params text).isMatch) ∧
        [['a'], ['b']].flatMap (printed template .params false false) =
          "✓ a\n    n = a\n✗ b\n".toList ∧
        tally template .params false [['a'], ['b']] = "\n1/2 matched\n".toList :=
    Regex.exists_eq_ok (by decide +kernel)
  refine ⟨options, parsed, fun surroundings plain => ?_⟩
  have hread : readTexts surroundings options.texts options.input? = .ok [['a'], ['b']] := by
    rw [htexts]
    rfl
  obtain ⟨hstderr, hcode, hstdout⟩ := ((run_outcome parsed surroundings).2.1 template
    (htemplate ▸ compiled)).2 explain |>.2 _ hread
  have notAll : ¬∀ text ∈ [['a'], ['b']], (template.evaluate .params text).isMatch := by
    obtain ⟨text, hmem, hmatch⟩ := hsome
    exact fun all => hmatch (all text hmem)
  rw [mode, if_neg notAll] at hcode
  rw [mode, json, plain, Bool.false_and, hblocks, if_pos ⟨rfl, param, Nat.le_refl 2⟩, htally]
    at hstdout
  generalize run ["{{n,a}}".toList, ['a'], ['b']] surroundings = result at *
  obtain ⟨code, stdout, stderr⟩ := result
  dsimp only at hstderr hcode hstdout
  rw [hstderr, hcode, hstdout]
  rfl

end ParamTemplate.CommandLine
