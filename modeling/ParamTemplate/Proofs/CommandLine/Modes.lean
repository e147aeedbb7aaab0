/-
**The questions of a command line.**

Without a choice, a command line asks for all values; it can ask for one value, or only whether the
template occurs in a text.  Questions about values match the same texts, and what they match
contains the template.  So the code of a run does not depend on which value it asks for, and a run
that ends well still does if it only asks whether the template occurs.

Main definition:

* `CommandLine.Options.asking` — what a command line says, with another question.

Main result:

* `CommandLine.modes_agree` — **what is common to the answers and the codes of all questions.**
-/

import ParamTemplate.Proofs.CommandLine.Outcome

set_option autoImplicit false

namespace ParamTemplate.CommandLine

open Template (Evaluation Mode Division Outcome)

/-- **What a command line says, with another question.** -/
def Options.asking (options : Options) : Mode → Options
  | .check => { options with check := true, param? := none }
  | .param name => { options with check := false, param? := some name }
  | .params => { options with check := false, param? := none }

section Asking

variable (options : Options) (mode : Mode)

@[simp] theorem mode_asking : (options.asking mode).mode = mode := by
  cases mode <;> rfl

@[simp] theorem template_asking : (options.asking mode).template = options.template := by
  cases mode <;> rfl

@[simp] theorem explain_asking : (options.asking mode).explain = options.explain := by
  cases mode <;> rfl

@[simp] theorem texts_asking : (options.asking mode).texts = options.texts := by
  cases mode <;> rfl

@[simp] theorem input?_asking : (options.asking mode).input? = options.input? := by
  cases mode <;> rfl

end Asking

variable {options : Options} {mode mode' : Mode} {surroundings : Surroundings}

/-- **The code does not depend on which values are asked for.** -/
theorem code_asking (values : mode ≠ .check) (values' : mode' ≠ .check) :
    (runOptions (options.asking mode) surroundings).code =
      (runOptions (options.asking mode') surroundings).code := by
  simp only [code_runOptions, template_asking, explain_asking, texts_asking, input?_asking,
    mode_asking, Template.isMatch_evaluate_of_ne_check values,
    Template.isMatch_evaluate_of_ne_check values']

/-- **A run that ends well still does if it only asks whether the template occurs.** -/
theorem code_asking_check (well : (runOptions (options.asking mode) surroundings).code = 0) :
    (runOptions (options.asking .check) surroundings).code = 0 := by
  simp only [code_runOptions, template_asking, explain_asking, texts_asking, input?_asking,
    mode_asking] at well ⊢
  cases compiled : Template.compile options.template with
  | error error =>
      rw [compiled] at well
      cases well
  | ok template =>
      simp only [compiled] at well ⊢
      cases explain : options.explain with
      | true => rfl
      | false =>
          simp only [explain, Bool.false_eq_true, if_false] at well ⊢
          cases hread : readTexts surroundings options.texts options.input? with
          | error error =>
              rw [hread] at well
              cases well
          | ok texts =>
              simp only [hread] at well ⊢
              have all : ∀ text ∈ texts, (template.evaluate mode text).isMatch := by
                by_contra some
                rw [if_neg some] at well
                cases well
              rw [if_pos]
              intro text hmem
              exact Template.isMatch_check_of_isMatch compiled (all text hmem)

/-- **What is common to all questions.**  The questions for one value and for all values match the
same texts, whatever the name; what they match contains the template; and what is found under a name
is the value of the first pair with that name among all.  So the codes of two runs that ask for
values are equal, and if such a run ends with 0, the one that only asks whether the template occurs
does so too. -/
theorem modes_agree {input : List Char} {template : Template}
    (compiled : Template.compile input = .ok template) (name : List Char)
    (texts : List (List Char)) (sequential : Bool) (division : Division) :
    let answers mode := template.evaluateShared mode sequential division texts
    (answers .params).map Evaluation.isMatch = (answers (.param name)).map Evaluation.isMatch ∧
    (∀ (k : Nat) (text : List Char), texts[k]? = some text → ∃ check param params : Evaluation,
      (answers .check)[k]? = some check ∧ (answers (.param name))[k]? = some param ∧
      (answers .params)[k]? = some params ∧ (params.isMatch → check.isMatch ∧
        param.outcome = .value (some (template.param? name text)) ∧
        ∃ pairs, params.outcome = .params (some pairs) ∧
          ∀ value, template.param? name text = some value →
            (pairs.find? fun pair => pair.1 = name) = some (name, value))) ∧
    ∀ (options : Options) surroundings mode mode' arguments arguments',
      read arguments = .ok (options.asking mode) → read arguments' = .ok (options.asking mode') →
      mode ≠ .check →
        (mode' ≠ .check → (run arguments surroundings).code = (run arguments' surroundings).code) ∧
        (mode' = .check → (run arguments surroundings).code = 0 →
          (run arguments' surroundings).code = 0) := by
  intro answers
  refine ⟨?_, fun k text hk => ?_, fun options surroundings mode mode' arguments arguments'
    parsed parsed' values => ⟨fun values' => ?_, fun hcheck well => ?_⟩⟩
  · simp only [answers, Template.evaluateShared_eq_map, List.map_map]
    exact List.map_congr_left fun text _ =>
      Template.isMatch_evaluate_params.trans Template.isMatch_evaluate_param.symm
  · refine ⟨template.evaluate .check text, template.evaluate (.param name) text,
      template.evaluate .params text, Template.getElem?_evaluateShared hk,
      Template.getElem?_evaluateShared hk, Template.getElem?_evaluateShared hk, fun hmatch => ?_⟩
    have conforms : (template.parameters? text).isSome := by
      rwa [Template.isMatch_evaluate_params] at hmatch
    obtain ⟨parameters, hparameters⟩ := Option.isSome_iff_exists.1 conforms
    have found : template.param? name text = parameters.get? name := by
      rw [Template.param?, hparameters, Option.bind_some]
    refine ⟨Template.isMatch_check_of_isMatch compiled hmatch, ?_, parameters.pairs, ?_, ?_⟩
    · rw [found]
      simp only [Template.evaluate, Template.outcome, hparameters, Option.map_some]
    · simp only [Template.evaluate, Template.outcome, hparameters, Option.map_some]
    · intro value hvalue
      exact Template.Parameters.find?_pairs (found.symm.trans hvalue)
  · rw [run_of_read parsed, run_of_read parsed']
    exact code_asking values values'
  · rw [run_of_read parsed] at well
    rw [run_of_read parsed', hcheck]
    exact code_asking_check well

/-- Of two placeholders with the same name the first one is found, and is listed first. -/
theorem modes_agree_of_twins : ∃ template,
    Template.compile "{{n,a}}{{n,b}}".toList = .ok template ∧
      template.param? ['n'] "ab".toList = some ['a'] ∧
      ∃ params : Evaluation, params.isMatch ∧ ∃ pairs, params.outcome = .params (some pairs) ∧
        (pairs.find? fun pair => pair.1 = ['n']) = some (['n'], ['a']) := by
  obtain ⟨template, compiled, hparam, hmatch⟩ :
      ∃ template, Template.compile "{{n,a}}{{n,b}}".toList = .ok template ∧
        template.param? ['n'] "ab".toList = some ['a'] ∧
        (template.evaluate .params "ab".toList).isMatch :=
    Regex.exists_eq_ok (by decide +kernel)
  obtain ⟨check, param, params, -, -, hparams, hagree⟩ :=
    (modes_agree compiled ['n'] ["ab".toList] true .whole).2.1 0 "ab".toList rfl
  cases hparams
  obtain ⟨-, -, pairs, hpairs, hfind⟩ := hagree hmatch
  exact ⟨template, compiled, hparam, _, hmatch, pairs, hpairs, hfind _ hparam⟩

end ParamTemplate.CommandLine
