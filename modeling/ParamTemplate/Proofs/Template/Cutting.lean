/-
**Conforming is being cut into segments.**

If the segments of a template are accepted on their own, a text conforms to the template if and only
if it can be cut into parts, one for each segment, that the segments match; assertions are judged in
all of the text.  Each placeholder has a group of its own, which holds its part.

The number of that group is found by counting the groups of the segments before it.  An expression
may have fewer groups than are written in it: one that is repeated zero times has none.  Then the
count is too small, and the value of the placeholder is what another group holds.

Main definitions:

* `Template.IsCut` — where a text is cut into segments;
* `Template.slices` — the names of the placeholders with their parts of a text.

Main results:

* `Template.conforms_iff_cut` — **what conforms to a template, and what its placeholders hold**;
* `Template.exists_lost_value` — a template whose placeholder has no value.
-/

import ParamTemplate.Proofs.Regex.Capturing
import ParamTemplate.Proofs.Template.Numbering

set_option autoImplicit false

namespace ParamTemplate.Template

open Regex Regex.Reader

/-! ### Cuts -/

/-- **Where a text is cut into segments:** from each position to the next one a segment matches. -/
structure IsCut (text : List Char) (segments : List Segment) (position : Nat → Nat) : Prop where
  start : position 0 = 0
  stop : position segments.length = text.length
  span : ∀ (k : Nat) (segment : Segment), segments[k]? = some segment →
    position k ≤ position (k + 1) ∧ segment.expr.Matches text (position k) (position (k + 1))

/-- The positions of a cut with one more segment in front, which begins at a position. -/
def startingAt (i : Nat) (position : Nat → Nat) : Nat → Nat
  | 0 => i
  | k + 1 => position k

variable {text : List Char} {segment : Segment} {segments : List Segment} {groups i j : Nat}
  {saves : List Save}

theorem matches_place (groups : Nat) :
    (segment.place groups).Matches text i j ↔ segment.expr.Matches text i j := by
  unfold Segment.place
  split
  · rw [Expr.matches_group, Expr.matches_renumber]
  · exact Expr.matches_renumber

/-- Segments that match parts of a text one after the other run over all of them. -/
theorem exists_runAll_of_span (groups : Nat) {position : Nat → Nat}
    (h : ∀ (k : Nat) (segment : Segment), segments[k]? = some segment →
      segment.expr.Matches text (position k) (position (k + 1))) :
    ∃ saves, Expr.RunAll text (placed groups segments) (position 0) saves
      (position segments.length) := by
  induction segments generalizing groups position with
  | nil => exact ⟨[], rfl, rfl⟩
  | cons segment segments ih =>
      obtain ⟨first, hfirst⟩ := (matches_place groups).2 (h 0 segment rfl)
      obtain ⟨rest, hrest⟩ := @ih (groups + segment.written) (fun k => position (k + 1))
        fun k => h (k + 1)
      exact ⟨first ++ rest, first, _, rest, hfirst, hrest, rfl⟩

/-- The groups of a segment have numbers beyond those before it. -/
theorem lt_of_mem_numbers (h : segment.Stands) {number : Nat}
    (hnumber : number ∈ segment.expr.numbers) : 0 < number := by
  obtain ⟨u, p, flags, hu, -, hmeaning, -⟩ := h.exists_alone
  have := (Pattern.numbers_sublist p hmeaning).subset hnumber
  rw [hu.numbers] at this
  exact (List.mem_range'_1.1 this).1

theorem lt_of_mem_place (h : segment.Stands) {number : Nat}
    (hnumber : number ∈ (segment.place groups).numbers) : groups < number := by
  unfold Segment.place at hnumber
  split at hnumber
  · rcases List.mem_cons.1 hnumber with rfl | hnumber
    · exact Nat.lt_succ_self _
    · rw [Expr.numbers_renumber] at hnumber
      obtain ⟨m, -, rfl⟩ := List.mem_map.1 hnumber
      omega
  · rw [Expr.numbers_renumber] at hnumber
    obtain ⟨m, hm, rfl⟩ := List.mem_map.1 hnumber
    exact Nat.lt_add_of_pos_right (lt_of_mem_numbers h hm)

theorem lt_of_mem_placed (h : ∀ segment ∈ segments, segment.Stands) {number : Nat}
    (hnumber : number ∈ (placed groups segments).flatMap Expr.numbers) : groups < number := by
  induction segments generalizing groups with
  | nil => cases hnumber
  | cons segment segments ih =>
      obtain ⟨hsegment, hsegments⟩ := List.forall_mem_cons.1 h
      rw [placed, List.flatMap_cons] at hnumber
      rcases List.mem_append.1 hnumber with hnumber | hnumber
      · exact lt_of_mem_place hsegment hnumber
      · exact Nat.lt_of_le_of_lt (Nat.le_add_right ..) (ih hsegments hnumber)

/-- The group of a placeholder holds what the placeholder matches. -/
theorem recorded_of_place (h : segment.Stands) (hplaceholder : segment.isPlaceholder)
    (hrun : (segment.place groups).Run text i saves j) : Recorded saves (groups + 1) i j := by
  rw [Segment.place, if_pos hplaceholder] at hrun
  obtain ⟨inner, hinner, rfl⟩ := hrun
  refine ⟨[], inner, [], rfl, fun save hsave => ?_, List.forall_mem_nil _⟩
  have := (hinner.mem_saves save hsave).1
  rw [Expr.numbers_renumber] at this
  obtain ⟨m, hm, heq⟩ := List.mem_map.1 this
  have := lt_of_mem_numbers h hm
  omega

/-- **Segments that run one after the other cut the text,** and the group of each placeholder holds
its part. -/
theorem exists_span_of_runAll (hstands : ∀ segment ∈ segments, segment.Stands)
    (h : Expr.RunAll text (placed groups segments) i saves j) :
    ∃ position : Nat → Nat, position 0 = i ∧ position segments.length = j ∧
      ∀ (k : Nat) (segment : Segment), segments[k]? = some segment →
        position k ≤ position (k + 1) ∧
        segment.expr.Matches text (position k) (position (k + 1)) ∧
        (segment.isPlaceholder → Recorded saves (groups + written (segments.take k) + 1)
          (position k) (position (k + 1))) := by
  induction segments generalizing groups i saves with
  | nil =>
      obtain ⟨-, rfl⟩ := h
      exact ⟨fun _ => j, rfl, rfl, by simp⟩
  | cons segment segments ih =>
      obtain ⟨hsegment, hsegments⟩ := List.forall_mem_cons.1 hstands
      obtain ⟨first, k, rest, hrun, hrest, rfl⟩ := h
      obtain ⟨position, rfl, hstop, hspan⟩ := ih hsegments hrest
      refine ⟨startingAt i position, rfl, hstop, ?_⟩
      rintro (_ | k) segment' hk
      · cases hk
        refine ⟨hrun.le, (matches_place _).1 ⟨first, hrun⟩, fun hplaceholder => ?_⟩
        refine (recorded_of_place hsegment hplaceholder hrun).append_right fun save hsave heq => ?_
        have := lt_of_mem_placed hsegments (hrest.mem_saves save hsave)
        rw [heq] at this
        have written : 1 ≤ segment.written := by
          rw [Segment.written, if_pos hplaceholder]
          exact Nat.le_add_left ..
        omega
      · obtain ⟨hle, hmatches, hrecorded⟩ := hspan k segment' hk
        refine ⟨hle, hmatches, fun hplaceholder => ?_⟩
        have := (hrecorded hplaceholder).append_left first
        rwa [Nat.add_assoc groups] at this

/-! ### Templates whose segments stand on their own -/

/-- The names of the placeholders with their parts of a text, in the order of the template. -/
def slices (text : List Char) (segments : List Segment) (position : Nat → Nat) : Text.Pairs :=
  segments.zipIdx.filterMap fun (segment, k) =>
    segment.name?.map fun name => (name, (text.take (position (k + 1))).drop (position k))

theorem length_slices (text : List Char) (segments : List Segment) (position : Nat → Nat) :
    (slices text segments position).length = segments.countP Segment.isPlaceholder := by
  have only : (fun entry : Segment × Nat => entry.1.name?.isSome) =
      Segment.isPlaceholder ∘ Prod.fst := rfl
  rw [slices, List.length_filterMap_eq_countP]
  simp only [Option.isSome_map]
  rw [only, ← List.countP_map, List.zipIdx_map_fst]

theorem filterMap_eq_slices {segments : List Segment} {position : Nat → Nat}
    {pair? : Segment → Option (List Char × List Char)}
    (h : ∀ (k : Nat) (segment : Segment), segments[k]? = some segment →
      pair? segment = segment.name?.map fun name =>
        (name, (text.take (position (k + 1))).drop (position k))) :
    segments.filterMap pair? = slices text segments position := by
  conv_lhs => rw [← List.zipIdx_map_fst 0 segments, List.filterMap_map]
  refine List.filterMap_congr fun entry hentry => ?_
  exact h entry.2 entry.1 (List.mem_zipIdx_iff_getElem?.1 hentry)

/-- Whether every segment before a placeholder keeps all groups that are written in it. -/
def KeepsGroups (segments : List Segment) : Prop :=
  ∀ (k : Nat) (segment : Segment), segments[k]? = some segment → segment.isPlaceholder →
    ∀ earlier ∈ segments.take k, earlier.width = earlier.written

section

variable {input : List Char} {template : Template}

theorem stands_of_compile (h : compile input = .ok template)
    (hliteral : ∀ segment ∈ template.segments, segment.isPlaceholder = false → segment.IsPlain)
    (hplaceholder : ∀ segment ∈ template.segments, segment.isPlaceholder → segment.CountsBlanks) :
    ∀ segment ∈ template.segments, segment.Stands := by
  intro segment hsegment
  cases hkind : segment.isPlaceholder with
  | false => exact (hliteral segment hsegment hkind).stands
  | true =>
      exact ⟨exists_compile_of_isPlaceholder h hsegment hkind, hplaceholder segment hsegment hkind⟩

/-- **A match cuts the text,** and the group that was opened for a placeholder holds its part. -/
theorem exists_cut_of_parameters? (h : compile input = .ok template) (hfits : template.FitsTied)
    (hstands : ∀ segment ∈ template.segments, segment.Stands)
    (hliteral : ∀ segment ∈ template.segments, segment.isPlaceholder = false → segment.IsPlain)
    {parameters : Parameters} (hparameters : template.parameters? text = some parameters) :
    parameters.segments = template.segments ∧ ∃ position,
      IsCut text template.segments position ∧
      ∀ (k : Nat) (segment : Segment), template.segments[k]? = some segment →
        segment.isPlaceholder →
          parameters.captures.group? (written (template.segments.take k) + 1) =
            some ((text.take (position (k + 1))).drop (position k)) := by
  have hexpr := whole_eq_of_fitsTied h hfits
  have hrun := run_of_segments hstands hliteral (accepted_of_compile h).1
  have hprogram := program_of_compileWhole (accepted_of_compile h).2.1
  obtain ⟨captures, hcaptures, rfl⟩ := Option.map_eq_some_iff.1 hparameters
  refine ⟨rfl, ?_⟩
  obtain ⟨i, saves, j, hi, hwhole, hgroup⟩ := exists_run_of_captures? hprogram hcaptures
  rw [hexpr] at hwhole
  obtain ⟨-, -, hmatch⟩ := (Expr.run_tied hi).1 hwhole
  obtain ⟨position, hstart, hstop, hspan⟩ := exists_span_of_runAll hstands ((hrun ..).1 hmatch)
  refine ⟨position, ⟨hstart, hstop, fun k segment hk =>
    ⟨(hspan k segment hk).1, (hspan k segment hk).2.1⟩⟩, fun k segment hk hkind => ?_⟩
  have recorded := (hspan k segment hk).2.2 hkind
  rw [Nat.zero_add] at recorded
  exact hgroup (Nat.succ_pos _) recorded

/-- **What conforms to a template, and what its placeholders hold.**  If the segments stand on their
own and no line feed is needed to tie them to both ends, what conforms is what can be cut into them,
and the group that was opened for a placeholder holds its part.  A placeholder has the number of that group if and only if each segment before it
keeps its groups; if all of them do, names and values are the parts of the text. -/
theorem conforms_iff_cut (h : compile input = .ok template)
    (hliteral : ∀ segment ∈ template.segments, segment.isPlaceholder = false → segment.IsPlain)
    (hplaceholder : ∀ segment ∈ template.segments, segment.isPlaceholder → segment.CountsBlanks)
    (hfits : template.FitsTied) (text : List Char) :
    ((template.parameters? text).isSome ↔ ∃ position, IsCut text template.segments position) ∧
      ∀ parameters, template.parameters? text = some parameters →
        ∃ position, IsCut text template.segments position ∧
          (∀ (k : Nat) (segment : Segment), template.segments[k]? = some segment →
            segment.isPlaceholder →
              parameters.captures.group? (written (template.segments.take k) + 1) =
                some ((text.take (position (k + 1))).drop (position k)) ∧
              (segment.index? = some (written (template.segments.take k) + 1) ↔
                ∀ earlier ∈ template.segments.take k, earlier.width = earlier.written)) ∧
          (KeepsGroups template.segments →
            parameters.pairs = slices text template.segments position ∧
            parameters.size = template.paramCount) := by
  have hstands := stands_of_compile h hliteral hplaceholder
  have hrun := run_of_segments hstands hliteral (accepted_of_compile h).1
  constructor
  · rw [isSome_parameters?_iff h (whole_eq_of_fitsTied h hfits) text]
    constructor
    · rintro ⟨saves, hmatch⟩
      obtain ⟨position, hstart, hstop, hspan⟩ :=
        exists_span_of_runAll hstands ((hrun ..).1 hmatch)
      exact ⟨position, hstart, hstop, fun k segment hk =>
        ⟨(hspan k segment hk).1, (hspan k segment hk).2.1⟩⟩
    · rintro ⟨position, hstart, hstop, hspan⟩
      obtain ⟨saves, hall⟩ := exists_runAll_of_span 0 fun k segment hk =>
        (hspan k segment hk).2
      rw [hstart, hstop] at hall
      exact ⟨saves, (hrun ..).2 hall⟩
  · intro parameters hparameters
    obtain ⟨hsegments, position, hcut, hgroup⟩ :=
      exists_cut_of_parameters? h hfits hstands hliteral hparameters
    refine ⟨position, hcut, fun k segment hk hkind =>
      ⟨hgroup k segment hk hkind, index?_eq_iff h hk hkind⟩, fun hkeeps => ?_⟩
    have hpairs : parameters.pairs = slices text template.segments position := by
      rw [Parameters.pairs, hsegments]
      refine filterMap_eq_slices fun k segment hk => ?_
      unfold Parameters.pair?
      cases hname : segment.name? with
      | none => rfl
      | some name =>
          have hkind := isPlaceholder_of_name? hname
          have hindex := (index?_eq_iff h hk hkind).2 (hkeeps k segment hk hkind)
          have hvalue : parameters.value? segment =
              some ((text.take (position (k + 1))).drop (position k)) := by
            rw [Parameters.value?, hindex]
            exact hgroup k segment hk hkind
          rw [hvalue]
          rfl
    exact ⟨hpairs, by rw [Parameters.size, hpairs, length_slices, paramCount]⟩

/-- A text is cut into a group and a placeholder. -/
theorem conforms_iff_cut_of_group : ∃ template, compile "(a){{n,b*}}".toList = .ok template ∧
    ∃ parameters ∈ template.parameters? "abb".toList, ∃ position,
      IsCut "abb".toList template.segments position ∧
        parameters.pairs = slices "abb".toList template.segments position ∧
        parameters.size = 1 := by
  obtain ⟨template, h, hliteral, hplaceholder, hfits, hkeeps, hcount, parameters, hparameters, -⟩ :
      ∃ template, compile "(a){{n,b*}}".toList = .ok template ∧
        (∀ segment ∈ template.segments, segment.isPlaceholder = false → segment.IsPlain) ∧
        (∀ segment ∈ template.segments, segment.isPlaceholder → segment.CountsBlanks) ∧
        (Regex.compile (anchored template.source)).toOption.isSome ∧
        (∀ segment ∈ template.segments, segment.width = segment.written) ∧
        template.paramCount = 1 ∧
        ∃ parameters ∈ template.parameters? "abb".toList, parameters.size = 1 :=
    exists_eq_ok (by decide +kernel)
  obtain ⟨position, hcut, -, hpairs⟩ :=
    (conforms_iff_cut h hliteral hplaceholder (ne_tooLarge_of_isSome hfits) "abb".toList).2
      parameters hparameters
  obtain ⟨hpairs, hsize⟩ := hpairs fun _ _ _ _ earlier hearlier =>
    hkeeps earlier (List.mem_of_mem_take hearlier)
  exact ⟨template, h, parameters, hparameters, position, hcut, hpairs, hsize.trans hcount⟩

/-- **A group that is repeated zero times is lost.**  The placeholder behind it has a number that no
group has, and no value. -/
theorem exists_lost_value : ∃ template, compile "(a){0}{{n}}".toList = .ok template ∧
    (∀ segment ∈ template.segments, segment.isPlaceholder = false → segment.IsPlain) ∧
    (∀ segment ∈ template.segments, segment.isPlaceholder → segment.CountsBlanks) ∧
    ∃ parameters ∈ template.parameters? "x".toList,
      parameters.pairs = [] ∧ parameters.size ≠ template.paramCount :=
  exists_eq_ok (by decide +kernel)

end

end ParamTemplate.Template
