/-
**Values that are found by name.**

Several placeholders may have the same name, and each of them may have taken part in a match or not.
Two questions can be asked about a name, and they are answered from opposite ends: the search for
one value takes the first placeholder of the name, also when that one has no value; the table keeps
the last value, and a placeholder without one overwrites nothing.  So the search may fail where the
table has an entry, but not the other way round.

This is so for the values that are told for the placeholders.  It is so for the values that their
own groups hold if the placeholders of the name have the numbers of their own groups.  A placeholder
that has the number of another group hides the value of its own one, and the table may then keep a
value that is not the last one, or none.

Main definitions:

* `Template.ownNumber?`, `Template.held?` — the group that was opened for a placeholder, and what it
  holds;
* `Template.FirstAndLast` — the first value is found, and the last one is in the table.

Main results:

* `Template.first_and_last` — **which values are found by name;**
* `Template.exists_hidden_last` — a template whose table does not keep the last value.
-/

import Mathlib.Data.Nat.Find
import Mathlib.Logic.Function.Basic
import ParamTemplate.Proofs.Template.Evaluating
import ParamTemplate.Proofs.Template.Numbering

set_option autoImplicit false

namespace ParamTemplate.Template

open Regex Regex.Reader

variable {input text name : List Char} {template : Template} {parameters : Parameters}
  {k number : Nat}

/-! ### Names and groups -/

/-- Whether a segment is a placeholder with a name. -/
def Bears (template : Template) (k : Nat) (name : List Char) : Prop :=
  (template.segments[k]?.bind Segment.name?) = some name

instance (template : Template) (k : Nat) (name : List Char) : Decidable (template.Bears k name) :=
  inferInstanceAs (Decidable (_ = _))

/-- The value that is told for a segment. -/
def told? (template : Template) (parameters : Parameters) (k : Nat) : Option (List Char) :=
  template.segments[k]?.bind parameters.value?

/-- **The number of the group that was opened for a placeholder,** at the parenthesis in front of
its expression, between the two ends of the text. -/
def ownNumber? (template : Template) (k : Nat) : Option Nat :=
  (Pattern.read template.whole.source).toOption.bind fun p =>
    (p.groupMarks.find? fun mark => mark.1 = wrapper.offset + template.parenthesis k).map Prod.snd

/-- **What the group holds that was opened for a placeholder.** -/
def held? (template : Template) (parameters : Parameters) (k : Nat) : Option (List Char) :=
  (template.ownNumber? k).bind parameters.captures.group?

/-- Set what is found under a name. -/
def overwrite (found : List Char → Option (List Char)) (pair : List Char × List Char) :
    List Char → Option (List Char) := Function.update found pair.1 (some pair.2)

/-- Whether a placeholder has the number of the group that was opened for it. -/
def HasOwnNumber (template : Template) (k : Nat) : Prop :=
  template.segments[k]?.bind Segment.index? = template.ownNumber? k

instance (template : Template) (k : Nat) : Decidable (template.HasOwnNumber k) :=
  inferInstanceAs (Decidable (_ = _))

/-- **The first value is found, and the last one is in the table:** what is found under a name is
the value of the first placeholder with this name, if it has one, and what the table has under the
name is the last value of such a placeholder. -/
structure FirstAndLast (template : Template) (text name : List Char)
    (value? : Nat → Option (List Char)) : Prop where
  first : ∀ k, template.Bears k name → (∀ earlier < k, ¬template.Bears earlier name) →
    template.param? name text = value? k ∧
      ∀ parameters ∈ template.parameters? text, parameters.get? name = value? k
  absent : (∀ k, ¬template.Bears k name) → template.param? name text = none ∧
    ∀ parameters ∈ template.parameters? text, parameters.get? name = none
  entry : ((template.params text).lookup name).isSome ↔
    ∃ k, template.Bears k name ∧ (value? k).isSome
  last : ∀ k, template.Bears k name →
    (∀ later > k, template.Bears later name → value? later = none) →
      ∀ value ∈ value? k, (template.params text).lookup name = some value

theorem bears_iff : template.Bears k name ↔
    ∃ segment, template.segments[k]? = some segment ∧ segment.name? = some name :=
  Option.bind_eq_some_iff

theorem bears_iff_names :
    template.Bears k name ↔ (template.segments.map Segment.name?)[k]? = some (some name) := by
  rw [bears_iff, List.getElem?_map, Option.map_eq_some_iff]

namespace FirstAndLast

variable {value? other? : Nat → Option (List Char)}

/-- Only the values of placeholders with the name count. -/
theorem congr (h : template.FirstAndLast text name value?)
    (same : ∀ k, template.Bears k name → value? k = other? k) :
    template.FirstAndLast text name other? where
  first k hk hfirst := same k hk ▸ h.first k hk hfirst
  absent := h.absent
  entry := by
    rw [h.entry]
    exact exists_congr fun k => and_congr_right fun hk => by rw [same k hk]
  last k hk hlast value hvalue := by
    refine h.last k hk (fun later hlater hname => ?_) value (same k hk ▸ hvalue)
    rw [same later hname]
    exact hlast later hlater hname

/-- **A name under which a value is found is in the table.** -/
theorem isSome_lookup (h : template.FirstAndLast text name value?)
    (found : (template.param? name text).isSome) :
    ((template.params text).lookup name).isSome := by
  by_cases borne : ∃ k, template.Bears k name
  · have first := (h.first (Nat.find borne) (Nat.find_spec borne) fun _ => Nat.find_min borne).1
    exact h.entry.2 ⟨Nat.find borne, Nat.find_spec borne, first ▸ found⟩
  · rw [(h.absent (not_exists.1 borne)).1] at found
    cases found

/-- **If a name is not shared, what is found under it is what the table has.** -/
theorem param?_eq_lookup (h : template.FirstAndLast text name value?)
    (alone : ∀ j k, template.Bears j name → template.Bears k name → j = k) :
    template.param? name text = (template.params text).lookup name := by
  by_cases borne : ∃ k, template.Bears k name
  · obtain ⟨k, hk⟩ := borne
    have first := (h.first k hk fun earlier hlt hearlier =>
      Nat.ne_of_lt hlt (alone earlier k hearlier hk)).1
    cases hvalue : value? k with
    | some value =>
        rw [first, hvalue, h.last k hk (fun later hlt hlater =>
          absurd (alone k later hk hlater) (Nat.ne_of_lt hlt)) value hvalue]
    | none =>
        have missing : ¬((template.params text).lookup name).isSome := fun hentry => by
          obtain ⟨j, hj, hsome⟩ := h.entry.1 hentry
          rw [alone j k hj hk, hvalue] at hsome
          cases hsome
        rw [first, hvalue, Option.not_isSome_iff_eq_none.1 missing]
  · have missing : ¬((template.params text).lookup name).isSome := fun hentry =>
      borne ((h.entry.1 hentry).imp fun _ hj => hj.1)
    rw [(h.absent (not_exists.1 borne)).1, Option.not_isSome_iff_eq_none.1 missing]

end FirstAndLast

/-! ### Values that are told -/

/-- What is found under a name in the table is the last pair that is listed under it. -/
theorem lookup_params (h : template.parameters? text = some parameters) (name : List Char) :
    (template.params text).lookup name = parameters.pairs.reverse.lookup name := by
  rw [params, h, Option.map_some, Option.getD_some, Parameters.toTable, Text.lookup_tableOf]

theorem told?_of_getElem? {segment : Segment} (hk : template.segments[k]? = some segment) :
    template.told? parameters k = parameters.value? segment := by
  rw [told?, hk, Option.bind_some]

/-- A name that no placeholder bears is not found. -/
theorem get?_of_forall_not_bears (h : template.parameters? text = some parameters)
    (hnone : ∀ k, ¬template.Bears k name) : parameters.get? name = none := by
  rw [Parameters.get?, segments_of_parameters? h, Option.bind_eq_none_iff]
  intro segment hsegment
  have hname : segment.name? = some name := by simpa using List.find?_some hsegment
  obtain ⟨k, hk⟩ := List.mem_iff_getElem?.1 (List.mem_of_find?_eq_some hsegment)
  exact absurd (bears_iff.2 ⟨segment, hk, hname⟩) (hnone k)

/-- **A name is in the table if and only if a value is told for a placeholder that bears it.** -/
theorem isSome_lookup_params_iff (h : template.parameters? text = some parameters) :
    ((template.params text).lookup name).isSome ↔
      ∃ k, template.Bears k name ∧ (template.told? parameters k).isSome := by
  rw [lookup_params h, List.lookup_isSome_iff]
  constructor
  · rintro ⟨pair, hpair, hkey⟩
    obtain ⟨segment, hsegment, hpair⟩ := List.mem_filterMap.1 (List.mem_reverse.1 hpair)
    obtain ⟨k, hk⟩ := List.mem_iff_getElem?.1 (segments_of_parameters? h ▸ hsegment)
    have hname : segment.name? = some name := by
      rw [Parameters.name?_of_pair? hpair, beq_iff_eq.1 hkey]
    rw [Parameters.pair?_eq hname] at hpair
    obtain ⟨value, hvalue, -⟩ := Option.map_eq_some_iff.1 hpair
    refine ⟨k, bears_iff.2 ⟨segment, hk, hname⟩, ?_⟩
    rw [told?_of_getElem? hk, hvalue, Option.isSome_some]
  · rintro ⟨k, hk, hsome⟩
    obtain ⟨segment, hsegment, hname⟩ := bears_iff.1 hk
    rw [told?_of_getElem? hsegment] at hsome
    obtain ⟨value, hvalue⟩ := Option.isSome_iff_exists.1 hsome
    have listed : (name, value) ∈ parameters.pairs := by
      refine List.mem_filterMap.2 ⟨segment, ?_, ?_⟩
      · exact segments_of_parameters? h ▸ List.mem_of_getElem? hsegment
      · rw [Parameters.pair?_eq hname, hvalue, Option.map_some]
    exact ⟨(name, value), List.mem_reverse.2 listed, beq_self_eq_true name⟩

/-- **The first of the values that are told is found, and the last one is in the table.** -/
theorem firstAndLast_told (h : template.parameters? text = some parameters) (name : List Char) :
    template.FirstAndLast text name (template.told? parameters) where
  first k hk hfirst := by
    obtain ⟨segment, hsegment, hname⟩ := bears_iff.1 hk
    have others : ∀ earlier ∈ template.segments.take k, earlier.name? ≠ some name := by
      intro earlier hearlier hsame
      obtain ⟨j, hj⟩ := List.mem_iff_getElem?.1 hearlier
      rw [List.getElem?_take] at hj
      split at hj
      next hlt => exact hfirst j hlt (bears_iff.2 ⟨earlier, hj, hsame⟩)
      next => cases hj
    rw [told?_of_getElem? hsegment]
    exact ((gives_of_parameters? h hsegment hname).get? others).symm
  absent hnone := by
    have get := get?_of_forall_not_bears h hnone
    refine ⟨by rw [param?, h, Option.bind_some, get], fun other hother => ?_⟩
    cases h.symm.trans hother
    exact get
  entry := isSome_lookup_params_iff h
  last k hk hlast value hvalue := by
    obtain ⟨segment, hsegment, hname⟩ := bears_iff.1 hk
    rw [told?_of_getElem? hsegment] at hvalue
    have behind : ((template.segments.drop (k + 1)).filterMap
        parameters.pair?).reverse.lookup name = none := by
      refine Parameters.lookup_reverse_filterMap fun later hlater hsame => ?_
      obtain ⟨j, hj⟩ := List.mem_iff_getElem?.1 hlater
      rw [List.getElem?_drop] at hj
      rw [← told?_of_getElem? hj]
      exact hlast (k + 1 + j) (by omega) (bears_iff.2 ⟨later, hj, hsame⟩)
    have pairs := (gives_of_parameters? h hsegment hname).pairs parameters h
    rw [lookup_params h, pairs, hvalue, List.reverse_append, List.lookup_append, behind,
      Option.none_or, List.reverse_append, List.lookup_append]
    simp

/-- **The table is made by setting the value of one name after the other.** -/
theorem lookup_params_eq_foldl (h : template.parameters? text = some parameters) :
    (fun key => (template.params text).lookup key) =
      parameters.pairs.foldl overwrite fun _ => none := by
  have step : ∀ (table : Text.Pairs) (pair : List Char × List Char),
      overwrite (fun key => table.lookup key) pair =
        fun key => (Text.insert pair.1 pair.2 table).lookup key := by
    intro table pair
    funext key
    rw [overwrite, Function.update_apply, Text.lookup_insert]
  rw [params, h, Option.map_some, Option.getD_some, Parameters.toTable, Text.tableOf]
  exact (List.foldl_hom (fun (table : Text.Pairs) key => table.lookup key) step).symm

/-- **No more values are listed than there are placeholders.** -/
theorem size_le_paramCount (h : template.parameters? text = some parameters) :
    parameters.size ≤ template.paramCount := by
  rw [Parameters.size, Parameters.pairs, List.length_filterMap_eq_countP,
    segments_of_parameters? h, paramCount]
  refine List.countP_mono_left fun segment _ hsome => ?_
  obtain ⟨pair, hpair⟩ := Option.isSome_iff_exists.1 hsome
  exact isPlaceholder_of_name? (Parameters.name?_of_pair? hpair)

/-! ### Values that are held -/

/-- **The number of its own group is the one that is read at the parenthesis.** -/
theorem ownNumber?_eq_some_iff (compiled : compile input = .ok template) :
    template.ownNumber? k = some number ↔
      ∃ p, Pattern.read template.source = .ok p ∧ p.Opens (template.parenthesis k) number := by
  obtain ⟨hsearch, hwhole, -, -⟩ := accepted_of_compile compiled
  obtain ⟨s, p, q, e, forms⟩ := exists_forms hsearch hwhole
  obtain ⟨length, hq⟩ := forms.read
  have hp := (forms.alone.accepted hsearch).read
  have tied : ∀ number, (wrapper.offset + template.parenthesis k, number) ∈
      (tie q length).groupMarks ↔ p.Opens (template.parenthesis k) number :=
    fun number => opens_tie_iff forms.groupMarks
  rw [ownNumber?, hq]
  change ((tie q length).groupMarks.find? _).map Prod.snd = some number ↔ _
  constructor
  · intro hown
    obtain ⟨⟨place, n⟩, hfind, rfl⟩ := Option.map_eq_some_iff.1 hown
    obtain rfl : place = wrapper.offset + template.parenthesis k := by
      simpa using List.find?_some hfind
    exact ⟨p, hp, (tied n).1 (List.mem_of_find?_eq_some hfind)⟩
  · rintro ⟨p', hp', hopens⟩
    cases hp.symm.trans hp'
    have found : ((tie q length).groupMarks.find? fun mark =>
        mark.1 = wrapper.offset + template.parenthesis k).isSome :=
      List.find?_isSome.2 ⟨_, (tied number).2 hopens, by simp⟩
    obtain ⟨⟨place, n⟩, hfind⟩ := Option.isSome_iff_exists.1 found
    obtain rfl : place = wrapper.offset + template.parenthesis k := by
      simpa using List.find?_some hfind
    have same := forms.alone.opens_unique ((tied n).1 (List.mem_of_find?_eq_some hfind)) hopens
    rw [hfind, Option.map_some, same]

/-- **Behind segments that stand on their own, a placeholder has the number of its own group if and
only if these keep their groups.** -/
theorem hasOwnNumber_iff (compiled : compile input = .ok template) (hk : template.Bears k name)
    (hstands : ∀ earlier ∈ template.segments.take k, earlier.Stands) :
    template.HasOwnNumber k ↔
      ∀ earlier ∈ template.segments.take k, earlier.width = earlier.written := by
  obtain ⟨segment, hsegment, hname⟩ := bears_iff.1 hk
  have hkind := isPlaceholder_of_name? hname
  obtain ⟨s, p, accepted⟩ := exists_accepted (accepted_of_compile compiled).1
  have own : template.ownNumber? k = some (written (template.segments.take k) + 1) :=
    (ownNumber?_eq_some_iff compiled).2
      ⟨p, accepted.read, opens_parenthesis compiled hsegment hkind hstands accepted.alone⟩
  rw [HasOwnNumber, own, hsegment, Option.bind_some, index?_eq_iff compiled hsegment hkind]

/-- A placeholder with the number of its own group tells what this group holds. -/
theorem told?_eq_held? (own : template.HasOwnNumber k) :
    template.told? parameters k = template.held? parameters k := by
  rw [told?, held?, ← own, Option.bind_assoc]
  rfl

/-- **Which values are found by name.**  If a text does not conform, none are.  If it does, the
first of the values that are told is found and the last one is in the table; so is it with the
values that the groups of the placeholders hold, if the placeholders of the name have the numbers of
their own groups.  Behind segments that stand on their own, they have if and only if these keep
their groups.

A name under which a value is found is in the table; a name that is not shared has the same value in
both; the table is made by setting the values of the names in their order, and these are no more
than there are placeholders. -/
theorem first_and_last (compiled : compile input = .ok template) (text name : List Char) :
    (template.parameters? text = none →
      template.param? name text = none ∧ template.params text = []) ∧
    (∀ k, template.Bears k name → (∀ earlier ∈ template.segments.take k, earlier.Stands) →
      (template.HasOwnNumber k ↔
        ∀ earlier ∈ template.segments.take k, earlier.width = earlier.written)) ∧
    ((template.param? name text).isSome → ((template.params text).lookup name).isSome) ∧
    ((∀ j k, template.Bears j name → template.Bears k name → j = k) →
      template.param? name text = (template.params text).lookup name) ∧
    ∀ parameters ∈ template.parameters? text,
      template.FirstAndLast text name (template.told? parameters) ∧
      ((∀ k, template.Bears k name → template.HasOwnNumber k) →
        template.FirstAndLast text name (template.held? parameters)) ∧
      (fun key => (template.params text).lookup key) =
        parameters.pairs.foldl overwrite (fun _ => none) ∧
      parameters.size ≤ template.paramCount := by
  have none_of_nonconforming (h : template.parameters? text = none) :
      template.param? name text = none ∧ template.params text = [] := by
    rw [param?, params, h]
    exact ⟨rfl, rfl⟩
  refine ⟨none_of_nonconforming, fun k hk hstands => hasOwnNumber_iff compiled hk hstands, ?_, ?_,
    fun parameters h => ?_⟩
  · intro found
    cases h : template.parameters? text with
    | none =>
        rw [(none_of_nonconforming h).1] at found
        cases found
    | some parameters => exact (firstAndLast_told h name).isSome_lookup found
  · intro alone
    cases h : template.parameters? text with
    | none =>
        obtain ⟨hparam, hparams⟩ := none_of_nonconforming h
        rw [hparam, hparams, List.lookup_nil]
    | some parameters => exact (firstAndLast_told h name).param?_eq_lookup alone
  · have told := firstAndLast_told h name
    exact ⟨told, fun own => told.congr fun k hk => told?_eq_held? (own k hk),
      lookup_params_eq_foldl h, size_le_paramCount h⟩

/-- The first placeholder of a name takes no part, so that no value is found; the second one does,
and its value is in the table. -/
theorem first_and_last_of_skipped : ∃ template,
    compile "(?:{{n,a}})?{{n,b}}".toList = .ok template ∧
      ∃ parameters ∈ template.parameters? "b".toList,
        template.FirstAndLast "b".toList "n".toList (template.held? parameters) ∧
        template.param? "n".toList "b".toList = none ∧
        (template.params "b".toList).lookup "n".toList = some "b".toList := by
  obtain ⟨template, compiled, names, own₁, own₃, parameters, h, skipped, hheld⟩ : ∃ template,
      compile "(?:{{n,a}})?{{n,b}}".toList = .ok template ∧
        template.segments.map Segment.name? = [none, some ['n'], none, some ['n']] ∧
        template.HasOwnNumber 1 ∧ template.HasOwnNumber 3 ∧
        ∃ parameters ∈ template.parameters? "b".toList,
          template.held? parameters 1 = none ∧ template.held? parameters 3 = some ['b'] :=
    exists_eq_ok (by decide +kernel)
  have borne : ∀ k, template.Bears k ['n'] ↔ k = 1 ∨ k = 3 := by
    intro k
    rw [bears_iff_names, names]
    match k with
    | 0 | 1 | 2 | 3 => simp
    | k + 4 => simp
  have numbers : ∀ k, template.Bears k ['n'] → template.HasOwnNumber k := by
    intro k hk
    obtain rfl | rfl := (borne k).1 hk
    · exact own₁
    · exact own₃
  obtain ⟨-, -, -, -, found⟩ := first_and_last compiled "b".toList "n".toList
  have values := (found parameters h).2.1 numbers
  refine ⟨template, compiled, parameters, h, values, ?_, ?_⟩
  · rw [(values.first 1 ((borne 1).2 (.inl rfl)) fun earlier hlt hname => ?_).1, skipped]
    have := (borne earlier).1 hname
    omega
  · refine values.last 3 ((borne 3).2 (.inr rfl)) (fun later hlt hname => ?_) _ hheld
    have := (borne later).1 hname
    omega

/-- **A placeholder may hide its own value.**  The group of the second placeholder holds the last
value of the name, but the placeholder has the number of the group of the first one, as the group
around that one was not counted. -/
theorem exists_hidden_last : ∃ template, compile "({{n,x}}){{n,y}}".toList = .ok template ∧
    ∃ parameters ∈ template.parameters? "xy".toList,
      template.held? parameters 3 = some "y".toList ∧
      (template.params "xy".toList).lookup "n".toList = some "x".toList ∧
      ¬template.FirstAndLast "xy".toList "n".toList (template.held? parameters) := by
  obtain ⟨template, compiled, names, parameters, h, hheld, hlookup⟩ : ∃ template,
      compile "({{n,x}}){{n,y}}".toList = .ok template ∧
        template.segments.map Segment.name? = [none, some ['n'], none, some ['n']] ∧
        ∃ parameters ∈ template.parameters? "xy".toList,
          template.held? parameters 3 = some "y".toList ∧
          (template.params "xy".toList).lookup "n".toList = some "x".toList :=
    exists_eq_ok (by decide +kernel)
  refine ⟨template, compiled, parameters, h, hheld, hlookup, fun claimed => ?_⟩
  have second : template.Bears 3 "n".toList := by
    rw [bears_iff_names, names]
    rfl
  have none_behind : ∀ later > 3, template.Bears later "n".toList →
      template.held? parameters later = none := by
    intro later hlater hname
    rw [bears_iff_names, names, List.getElem?_eq_none hlater] at hname
    cases hname
  have last := claimed.last 3 second none_behind _ hheld
  rw [hlookup] at last
  exact absurd last (by decide)

end ParamTemplate.Template
