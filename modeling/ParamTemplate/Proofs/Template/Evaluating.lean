/-
**Answers for texts.**

However texts are shared out, the answers are those of the texts one by one.  The question for one
value and the question for all are answered from the same values of the placeholders, so that they
agree on which texts match; and what is found under a name is what the list of all values has first
under that name.

Main results:

* `Template.evaluateShared_eq_map` — **the answers do not depend on how texts are shared out;**
* `Template.Parameters.find?_pairs` — **the value found under a name is the first one listed under
  it.**
-/

import ParamTemplate.Proofs.Template.Occurrence
import ParamTemplate.Template.Evaluation

set_option autoImplicit false

namespace ParamTemplate.Template

variable {template : Template} {mode : Mode} {text name value : List Char}

/-! ### Sharing out -/

/-- **Halves that are put together in order** give the answers in order. -/
theorem evaluateDivided_eq_map (division : Division) (texts : List (List Char)) :
    template.evaluateDivided mode division texts = texts.map (template.evaluate mode) := by
  induction division generalizing texts with
  | whole => rfl
  | halves left right ihl ihr =>
      by_cases single : texts.length / 2 = 0
      · rw [evaluateDivided, if_pos single, evaluateAll]
      · rw [evaluateDivided, if_neg single, ihl, ihr, ← List.map_append, List.take_append_drop]

/-- **The answers do not depend on how texts are shared out.** -/
theorem evaluateShared_eq_map (sequential : Bool) (division : Division)
    (texts : List (List Char)) :
    template.evaluateShared mode sequential division texts =
      texts.map (template.evaluate mode) := by
  by_cases alone : (sequential || decide (texts.length = 1)) = true
  · rw [evaluateShared, if_pos alone, evaluateAll]
  · rw [evaluateShared, if_neg alone, evaluateDivided_eq_map]

theorem getElem?_evaluateShared {sequential : Bool} {division : Division}
    {texts : List (List Char)} {k : Nat} (h : texts[k]? = some text) :
    (template.evaluateShared mode sequential division texts)[k]? =
      some (template.evaluate mode text) := by
  rw [evaluateShared_eq_map, List.getElem?_map, h, Option.map_some]

/-! ### Which texts match -/

@[simp] theorem isMatch_evaluate_check :
    (template.evaluate .check text).isMatch = template.occursIn text := rfl

@[simp] theorem isMatch_evaluate_param :
    (template.evaluate (.param name) text).isMatch = (template.parameters? text).isSome :=
  Option.isSome_map

@[simp] theorem isMatch_evaluate_params :
    (template.evaluate .params text).isMatch = (template.parameters? text).isSome :=
  Option.isSome_map

/-- **All questions about values match the same texts.** -/
theorem isMatch_evaluate_of_ne_check (h : mode ≠ .check) :
    (template.evaluate mode text).isMatch = (template.parameters? text).isSome := by
  cases mode with
  | check => exact absurd rfl h
  | param name => exact isMatch_evaluate_param
  | params => exact isMatch_evaluate_params

/-- **A text that matches a question about values contains the template.** -/
theorem isMatch_check_of_isMatch {input : List Char} (compiled : compile input = .ok template)
    (hmatch : (template.evaluate mode text).isMatch) :
    (template.evaluate .check text).isMatch := by
  by_cases hmode : mode = .check
  · rwa [hmode] at hmatch
  · rw [isMatch_evaluate_of_ne_check hmode] at hmatch
    exact occursIn_of_conforms compiled hmatch

/-! ### Values by name -/

variable {parameters : Parameters}

/-- A pair bears the name of its placeholder. -/
theorem Parameters.name?_of_pair? {segment : Segment} {pair : List Char × List Char}
    (h : parameters.pair? segment = some pair) : segment.name? = some pair.1 := by
  unfold pair? at h
  split at h
  next other value hname _ =>
    cases h
    exact hname
  · cases h

/-- **The value found under a name is the first one listed under it.**  The first placeholder of a
name hides the others, also when it has no value, and then none is found; so where one is found,
nothing with that name is listed before it. -/
theorem Parameters.find?_pairs (h : parameters.get? name = some value) :
    (parameters.pairs.find? fun pair => pair.1 = name) = some (name, value) := by
  obtain ⟨segment, hfirst, hvalue⟩ := Option.bind_eq_some_iff.1 h
  obtain ⟨hname, before, after, hsegments, hbefore⟩ := List.find?_eq_some_iff_append.1 hfirst
  have named : segment.name? = some name := by simpa using hname
  have here : parameters.pair? segment = some (name, value) := by
    rw [pair?, named, hvalue]
  have nothing : ((before.filterMap parameters.pair?).find? fun pair => pair.1 = name) = none := by
    rw [List.find?_eq_none]
    intro pair hpair
    obtain ⟨earlier, hearlier, heq⟩ := List.mem_filterMap.1 hpair
    have other : earlier.name? ≠ some name := by simpa using hbefore earlier hearlier
    rw [name?_of_pair? heq] at other
    simpa using other
  rw [pairs, hsegments, List.filterMap_append, List.find?_append, nothing, Option.none_or,
    List.filterMap_cons_some here, List.find?_cons_of_pos (by simp)]

end ParamTemplate.Template
