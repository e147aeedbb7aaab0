/-
**Records of a run.**

A run that is asked for records prints one line for each text.  Whoever reads such a line gets the
text back, whether it matches, and the answer to the question of the run, and nothing else.  No text
can break its line, as no control character is written.

Main definitions:

* `CommandLine.Tells` — what the fields of a record are;
* `CommandLine.IsRecord` — a line is the record of a text.

Main results:

* `CommandLine.isRecord_record` — what is written for a text is its record;
* `CommandLine.records_of_run` — **a run prints a record for each text.**
-/

import Mathlib.Data.List.Forall2
import ParamTemplate.Proofs.CommandLine.Outcome
import ParamTemplate.Proofs.Text.Records

set_option autoImplicit false

namespace ParamTemplate.CommandLine

open Template (Mode)
open Text (Json)

/-! ### Records -/

/-- Whether a text matches, by the question that is asked. -/
def matched (template : Template) (text : List Char) : Mode → Bool
  | .check => template.occursIn text
  | .param _ | .params => (template.parameters? text).isSome

/-- **The answer to the question that is asked:** none, the value of a placeholder, or the table of
all values with its keys in order. -/
def Answers (template : Template) (text : List Char) : Mode → List (List Char × Json) → Prop
  | .check, fields => fields = []
  | .param name, fields =>
      fields = [("value".toList, ((template.param? name text).map Json.text).getD .null)]
  | .params, fields =>
      ∃ table : Text.Pairs,
        fields = [("params".toList, .object (table.map fun pair => (pair.1, .text pair.2)))] ∧
        table.Pairwise (fun pair next => pair.1 < next.1) ∧
        (∀ name, table.lookup name = (template.params text).lookup name) ∧
        (template.parameters? text = none → table = [])

/-- **What the fields of a record are:** the text, whether it matches, and besides the answer. -/
structure Tells (template : Template) (mode : Mode) (text : List Char)
    (fields : List (List Char × Json)) : Prop where
  distinct : (fields.map Prod.fst).Nodup
  answer : Answers template text mode
    (fields.filter fun field => field.1 ≠ "text".toList ∧ field.1 ≠ "matched".toList)
  matched : fields.lookup "matched".toList = some (.bool (matched template text mode))
  text : fields.lookup "text".toList = some (.text text)

/-- **A line is the record of a text:** it holds no control character, and is read as an object. -/
structure IsRecord (template : Template) (mode : Mode) (text line : List Char) : Prop where
  plain : ∀ c ∈ line, ¬c.toNat < 0x20
  read : ∃ fields, Json.parse line = some (.object fields) ∧ Tells template mode text fields

section

variable (template : Template) (mode : Mode) (text : List Char)

theorem isMatch_evaluate : (template.evaluate mode text).isMatch = matched template text mode := by
  cases mode with
  | check => exact Template.isMatch_evaluate_check
  | param name => exact Template.isMatch_evaluate_param
  | params => exact Template.isMatch_evaluate_params

/-- The table that is written is that of all values. -/
theorem tableOf_outcome :
    Text.tableOf (((template.parameters? text).map Template.Parameters.pairs).getD []) =
      template.params text := by
  rw [Template.params]
  cases template.parameters? text <;> rfl

/-- What is written besides is the answer. -/
theorem answers_answerFields :
    Answers template text mode (Report.answerFields (template.outcome text mode)) := by
  cases mode with
  | check => rfl
  | param name =>
      rw [Template.outcome, Report.answerFields, Answers, Template.param?]
      cases template.parameters? text <;> rfl
  | params =>
      refine ⟨template.params text, ?_, ?_, fun _ => rfl, fun none => ?_⟩
      · rw [Template.outcome, Report.answerFields, tableOf_outcome]
      · rw [← tableOf_outcome]
        exact Text.sorted_tableOf _
      · rw [Template.params, none]
        rfl

/-- The fields of the record of a text. -/
theorem record_evaluate : ∃ fields,
    Report.record (template.evaluate mode text) = .object fields ∧
      Tells template mode text fields := by
  have answer := answers_answerFields template mode text
  cases mode with
  | check =>
      refine ⟨_, rfl, ⟨?_, answer, rfl, rfl⟩⟩
      change ["matched".toList, "text".toList].Nodup
      decide
  | param name =>
      refine ⟨_, rfl, ⟨?_, answer, ?_, rfl⟩⟩
      · change ["matched".toList, "text".toList, "value".toList].Nodup
        decide
      · rw [← isMatch_evaluate]
        rfl
  | params =>
      refine ⟨_, rfl, ⟨?_, answer, ?_, rfl⟩⟩
      · change ["matched".toList, "params".toList, "text".toList].Nodup
        decide
      · rw [← isMatch_evaluate]
        rfl

/-- **What is written for a text is its record.** -/
theorem isRecord_record :
    IsRecord template mode text (Report.record (template.evaluate mode text)).render := by
  obtain ⟨fields, hrecord, tells⟩ := record_evaluate template mode text
  exact ⟨fun c hc => Json.not_control_of_mem_render _ hc, fields,
    hrecord ▸ Json.parse_render _, tells⟩

end

/-! ### Runs -/

variable {arguments : List (List Char)} {options : Options} {surroundings : Surroundings}

/-- A run that neither explains nor ends with 2 has read its texts. -/
theorem exists_texts_of_code (explain : options.explain = false)
    (well : (runOptions options surroundings).code ≠ 2) : ∃ template texts,
      Template.compile options.template = .ok template ∧
        readTexts surroundings options.texts options.input? = .ok texts := by
  rw [code_runOptions] at well
  cases compiled : Template.compile options.template with
  | error error => simp [compiled] at well
  | ok template =>
      cases hread : readTexts surroundings options.texts options.input? with
      | error error => simp [compiled, explain, hread] at well
      | ok texts => exact ⟨template, texts, rfl, rfl⟩

/-- Records are printed with a line feed behind each, in colour or not. -/
theorem printed_json (template : Template) (mode : Mode) (color : Bool) (text : List Char) :
    printed template mode true color text =
      (Report.record (template.evaluate mode text)).render ++ ['\n'] :=
  List.append_nil _

/-- **A run prints a record for each text.**  A run that is asked for records, and neither explains
the template nor ends with 2, prints one line for each text, in order, and nothing else.  No line
holds a control character; each is read as an object, which tells the text, whether it matches, and
the answer to the question of the run. -/
theorem records_of_run (parsed : read arguments = .ok options) (json : options.json = true)
    (explain : options.explain = false) (well : (run arguments surroundings).code ≠ 2) :
    ∃ template texts lines, Template.compile options.template = .ok template ∧
      readTexts surroundings options.texts options.input? = .ok texts ∧
      (run arguments surroundings).stdout = Text.unlines lines ∧
      List.Forall₂ (IsRecord template options.mode) texts lines := by
  rw [run_of_read parsed] at well ⊢
  obtain ⟨template, texts, compiled, hread⟩ := exists_texts_of_code explain well
  refine ⟨template, texts,
    texts.map fun text => (Report.record (template.evaluate options.mode text)).render,
    compiled, hread, ?_, ?_⟩
  · rw [runOptions_of_texts compiled explain hread, stdout_conclude, json,
      if_neg fun h => Bool.noConfusion h.1, List.append_nil, Text.unlines, List.flatMap_map]
    exact List.flatMap_congr fun text _ => printed_json ..
  · rw [List.forall₂_map_right_iff, List.forall₂_same]
    exact fun text _ => isRecord_record ..

/-- A text of a quotation mark and a line feed has its record on one line. -/
theorem records_of_run_of_quote :
    let surroundings : Surroundings := { fileAt := fun _ => .error .missing, stdin := [] }
    ∃ template line, Template.compile "{{n}}".toList = .ok template ∧
      (run ["{{n}}".toList, "--json".toList, ['"', '\n']] surroundings).stdout = line ++ ['\n'] ∧
      IsRecord template .params ['"', '\n'] line := by
  intro surroundings
  obtain ⟨options, parsed, htemplate, htexts, json, explain, mode⟩ :
      ∃ options, read ["{{n}}".toList, "--json".toList, ['"', '\n']] = .ok options ∧
        options.template = "{{n}}".toList ∧ options.texts = [['"', '\n']] ∧
        options.json = true ∧ options.explain = false ∧ options.mode = .params :=
    Regex.exists_eq_ok (by decide +kernel)
  have well : (run ["{{n}}".toList, "--json".toList, ['"', '\n']] surroundings).code ≠ 2 := by
    decide +kernel
  obtain ⟨template, texts, lines, compiled, hread, hstdout, hlines⟩ :=
    records_of_run parsed json explain well
  rw [htemplate] at compiled
  rw [htexts] at hread
  obtain rfl : [['"', '\n']] = texts := Except.ok.inj hread
  obtain ⟨line, rest, hline, hrest, rfl⟩ := List.forall₂_cons_left_iff.1 hlines
  obtain rfl := List.forall₂_nil_left_iff.1 hrest
  exact ⟨template, line, compiled, hstdout.trans (List.append_nil _), mode ▸ hline⟩

end ParamTemplate.CommandLine
