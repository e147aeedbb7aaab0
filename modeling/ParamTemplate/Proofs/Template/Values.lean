/-
**What the placeholders of a template are given.**

A text that conforms to a template gives a value to each placeholder whose group took part in the
match.  The values are told in order, by name, and as a table; if several placeholders have the same
name, the first of them is found by it, and the last one with a value stands in the table.

Main definition:

* `Template.Gives` — all ways of telling a value agree on the one of a placeholder.

Main result:

* `Template.gives_of_parameters?` — the value of a placeholder is that of its group.
-/

import ParamTemplate.Template

set_option autoImplicit false

namespace ParamTemplate.Template

variable {template : Template} {text name : List Char} {parameters : Parameters} {segment : Segment}
  {segments : List Segment} {k : Nat}

/-- **All that a template tells about a text gives a value to a placeholder:** the list of names and
values in order, the search for its name unless a placeholder before it has the same, and the table
unless one behind it has. -/
structure Gives (template : Template) (text : List Char) (k : Nat) (name : List Char)
    (value : Option (List Char)) : Prop where
  pairs : ∀ parameters ∈ template.parameters? text, parameters.pairs =
    (template.segments.take k).filterMap parameters.pair? ++
      (value.map fun v => (name, v)).toList ++
        (template.segments.drop (k + 1)).filterMap parameters.pair?
  get? : (∀ earlier ∈ template.segments.take k, earlier.name? ≠ some name) →
    (∀ parameters ∈ template.parameters? text, parameters.get? name = value) ∧
      template.param? name text = value
  params : (∀ later ∈ template.segments.drop (k + 1), later.name? ≠ some name) →
    ∀ v ∈ value, (template.params text).lookup name = some v

/-! ### Segments and names -/

/-- A template up to a segment, the segment, and what is behind it. -/
theorem eq_take_append (h : segments[k]? = some segment) :
    segments = segments.take k ++ segment :: segments.drop (k + 1) := by
  obtain ⟨hlt, rfl⟩ := List.getElem?_eq_some_iff.1 h
  rw [← List.drop_eq_getElem_cons hlt, List.take_append_drop]

theorem isPlaceholder_of_name? (h : segment.name? = some name) : segment.isPlaceholder := by
  rw [Segment.isPlaceholder, h]
  rfl

theorem isPlaceholder_of_index? {index : Nat} (h : segment.index? = some index) :
    segment.isPlaceholder := by
  unfold Segment.index? at h
  split at h
  · cases h
  next name _ hkind =>
    have hname : segment.name? = some name := by rw [Segment.name?, hkind]
    exact isPlaceholder_of_name? hname

theorem segments_of_parameters? (h : template.parameters? text = some parameters) :
    parameters.segments = template.segments := by
  obtain ⟨captures, -, rfl⟩ := Option.map_eq_some_iff.1 h
  rfl

theorem Parameters.pair?_eq (hname : segment.name? = some name) :
    parameters.pair? segment = (parameters.value? segment).map fun v => (name, v) := by
  rw [pair?, hname]
  cases parameters.value? segment <;> rfl

/-- A name is not among those with a value if no segment that has it has a value. -/
theorem Parameters.lookup_reverse_filterMap
    (h : ∀ segment ∈ segments, segment.name? = some name → parameters.value? segment = none) :
    (segments.filterMap parameters.pair?).reverse.lookup name = none := by
  rw [List.lookup_eq_none_iff]
  intro pair hpair
  obtain ⟨segment, hsegment, heq⟩ := List.mem_filterMap.1 (List.mem_reverse.1 hpair)
  unfold Parameters.pair? at heq
  split at heq
  next other value hname hvalue =>
    cases heq
    have different : other ≠ name := fun he => by
      cases hvalue.symm.trans (h segment hsegment (he ▸ hname))
    simpa using different.symm
  · cases heq

/-! ### Values -/

/-- **A placeholder is given the value of its group.** -/
theorem gives_of_parameters? (h : template.parameters? text = some parameters)
    (hk : template.segments[k]? = some segment) (hname : segment.name? = some name) :
    template.Gives text k name (parameters.value? segment) := by
  have split : parameters.segments =
      template.segments.take k ++ segment :: template.segments.drop (k + 1) :=
    (segments_of_parameters? h).trans (eq_take_append hk)
  have pairs : parameters.pairs = (template.segments.take k).filterMap parameters.pair? ++
      ((parameters.value? segment).map fun v => (name, v)).toList ++
        (template.segments.drop (k + 1)).filterMap parameters.pair? := by
    rw [Parameters.pairs, split, List.filterMap_append, List.filterMap_cons,
      Parameters.pair?_eq hname, List.append_assoc]
    cases parameters.value? segment <;> rfl
  refine ⟨fun other hother => ?_, fun hfirst => ?_, fun hlast v hv => ?_⟩
  · cases h.symm.trans hother
    exact pairs
  · have absent : (template.segments.take k).find? (fun s => s.name? = some name) = none :=
      List.find?_eq_none.2 fun earlier hearlier => by simpa using hfirst earlier hearlier
    have get : parameters.get? name = parameters.value? segment := by
      rw [Parameters.get?, split, List.find?_append, absent, Option.none_or,
        List.find?_cons_of_pos (by simpa using hname), Option.bind_some]
    refine ⟨fun other hother => ?_, ?_⟩
    · cases h.symm.trans hother
      exact get
    · rw [param?, h, Option.bind_some, get]
  · -- The table is read from the end of the list on.
    rw [params, h, Option.map_some, Option.getD_some, Parameters.toTable, Text.lookup_tableOf,
      pairs, hv, List.reverse_append, List.lookup_append, Parameters.lookup_reverse_filterMap
        fun later hlater hsame => absurd hsame (hlast later hlater),
      Option.none_or, List.reverse_append, List.lookup_append]
    simp

end ParamTemplate.Template
