/-
**Why a template is refused.**

Three things are compiled one after the other: the expressions of the placeholders, in the order of
the template; the assembled expression as it stands; and the assembled expression between both ends
of the text, which has a second try.  The first failure decides what is complained about, and a
second try that fails leaves the complaint of the first.

A placeholder is judged by the number of groups that was counted when the segments were made.  That
number is there exactly if the expression of the placeholder compiles.

Main definitions:

* `Template.PlaceholdersAccepted` — the expression of each placeholder compiles on its own;
* `Template.FirstRefused` — the first placeholder of which that is not so.

Main result:

* `Template.compile_outcome` — **how a template is refused, and how it is accepted.**
-/

import ParamTemplate.Proofs.Template.Assembling
import ParamTemplate.Proofs.Template.Wrapping

set_option autoImplicit false

namespace ParamTemplate.Template

open Regex

/-! ### Placeholders -/

/-- **The expression of each placeholder compiles on its own.** -/
def PlaceholdersAccepted (segments : List Segment) : Prop :=
  ∀ segment ∈ segments, segment.isPlaceholder → ∃ regex, Regex.compile segment.body = .ok regex

/-- **The first placeholder whose expression does not compile on its own.** -/
def FirstRefused (segments : List Segment) (name pattern : List Char) (cause : Regex.Error) : Prop :=
  ∃ before segment after, segments = before ++ segment :: after ∧ PlaceholdersAccepted before ∧
    segment.name? = some name ∧ segment.body = pattern ∧ Regex.compile pattern = .error cause

namespace Segment

variable {segment : Segment} {error : Template.Error}

theorem groupCount?_eq_none_iff (counted : segment.groupCount? = Regex.groupCount? segment.body) :
    segment.groupCount? = none ↔ ∃ cause, Regex.compile segment.body = .error cause := by
  rw [counted, Regex.groupCount?, Option.map_eq_none_iff]
  cases hcompile : Regex.compile segment.body with
  | ok regex => simp [Except.toOption]
  | error cause => simp [Except.toOption]

/-- **What a segment is blamed for:** it is a placeholder, and its expression does not compile. -/
theorem error?_eq_some_iff (counted : segment.groupCount? = Regex.groupCount? segment.body) :
    segment.error? = some error ↔ ∃ name cause, segment.name? = some name ∧
      Regex.compile segment.body = .error cause ∧
      error = .placeholder name segment.body cause := by
  have count := groupCount?_eq_none_iff counted
  constructor
  · intro h
    unfold error? at h
    split at h
    next name hname hcount =>
      obtain ⟨cause, hcause⟩ := count.1 hcount
      rw [hcause] at h
      cases h
      exact ⟨name, cause, hname, hcause, rfl⟩
    · cases h
  · rintro ⟨name, cause, hname, hcause, rfl⟩
    rw [error?, hname, count.2 ⟨cause, hcause⟩]
    dsimp only
    rw [hcause]

theorem error?_eq_none_iff (counted : segment.groupCount? = Regex.groupCount? segment.body) :
    segment.error? = none ↔
      (segment.isPlaceholder → ∃ regex, Regex.compile segment.body = .ok regex) := by
  refine ⟨exists_compile_of_error? counted, fun accepted => ?_⟩
  rw [Option.eq_none_iff_forall_ne_some]
  intro error herror
  obtain ⟨name, cause, hname, hcause, -⟩ := (error?_eq_some_iff counted).1 herror
  obtain ⟨regex, hregex⟩ := accepted (by rw [isPlaceholder, hname, Option.isSome_some])
  rw [hcause] at hregex
  cases hregex

end Segment

section Blame

variable {segments : List Segment}
  (counted : ∀ segment ∈ segments, segment.groupCount? = Regex.groupCount? segment.body)

include counted

theorem findSome?_error?_eq_none_iff :
    segments.findSome? Segment.error? = none ↔ PlaceholdersAccepted segments := by
  rw [List.findSome?_eq_none_iff]
  constructor
  · intro h segment hmem
    exact (Segment.error?_eq_none_iff (counted segment hmem)).1 (h segment hmem)
  · intro h segment hmem
    exact (Segment.error?_eq_none_iff (counted segment hmem)).2 (h segment hmem)

/-- **The first placeholder that is refused is blamed,** and nothing else is. -/
theorem findSome?_error?_eq_some_iff {error : Error} :
    segments.findSome? Segment.error? = some error ↔ ∃ name pattern cause,
      error = .placeholder name pattern cause ∧ FirstRefused segments name pattern cause := by
  have earlier {before after : List Segment} {segment : Segment}
      (hsegments : segments = before ++ segment :: after) :
      (∀ s ∈ before, s.groupCount? = Regex.groupCount? s.body) ∧
        segment.groupCount? = Regex.groupCount? segment.body := by
    subst hsegments
    exact ⟨fun s hs => counted s (List.mem_append_left _ hs), counted segment (by simp)⟩
  rw [List.findSome?_eq_some_iff]
  constructor
  · rintro ⟨before, segment, after, hsegments, herror, hbefore⟩
    obtain ⟨hcounted, hsegment⟩ := earlier hsegments
    obtain ⟨name, cause, hname, hcause, rfl⟩ := (Segment.error?_eq_some_iff hsegment).1 herror
    have accepted : PlaceholdersAccepted before := fun s hs =>
      (Segment.error?_eq_none_iff (hcounted s hs)).1 (hbefore s hs)
    exact ⟨name, segment.body, cause, rfl, before, segment, after, hsegments, accepted, hname, rfl,
      hcause⟩
  · rintro ⟨name, pattern, cause, rfl, before, segment, after, hsegments, accepted, hname, rfl,
      hcause⟩
    obtain ⟨hcounted, hsegment⟩ := earlier hsegments
    refine ⟨before, segment, after, hsegments, ?_, fun s hs => ?_⟩
    · exact (Segment.error?_eq_some_iff hsegment).2 ⟨name, cause, hname, hcause, rfl⟩
    · exact (Segment.error?_eq_none_iff (hcounted s hs)).2 (accepted s hs)

end Blame

/-! ### The assembled expression -/

variable {source text : List Char} {segments : List Segment}

/-- **Both forms between the ends are tried,** and the complaint is about the first. -/
theorem compileWhole_eq_error_iff {cause : Regex.Error} :
    compileWhole source = .error cause ↔ Regex.compile (anchored source) = .error cause ∧
      ∃ other, Regex.compile (anchored (source ++ ['\n'])) = .error other := by
  unfold compileWhole
  cases hfirst : Regex.compile (anchored source) with
  | ok regex => simp
  | error first =>
      cases hsecond : Regex.compile (anchored (source ++ ['\n'])) with
      | ok regex => simp
      | error second => simp

/-- **What the assembled expression is blamed for.** -/
theorem build_eq_error_iff {error : Error} :
    build text segments = .error error ↔ ∃ cause, error = .build (assemble segments) cause ∧
      (Regex.compile (assemble segments) = .error cause ∨
        (∃ search, Regex.compile (assemble segments) = .ok search) ∧
          compileWhole (assemble segments) = .error cause) := by
  cases hsearch : Regex.compile (assemble segments) with
  | error cause => simp [build, hsearch, eq_comm]
  | ok search =>
      cases hwhole : compileWhole (assemble segments) with
      | error cause => simp [build, hsearch, hwhole, eq_comm]
      | ok whole => simp [build, hsearch, hwhole]

/-- **Both compiled forms of an accepted template have equally many groups.** -/
theorem groupCount_search_eq {input : List Char} {template : Template}
    (h : compile input = .ok template) :
    template.search.groupCount = template.whole.groupCount := by
  obtain ⟨hsearch, hwhole, -⟩ := accepted_of_compile h
  obtain ⟨s, p, q, e, forms⟩ := exists_forms hsearch hwhole
  have numbers : template.whole.expr.numbers = template.search.expr.numbers := by
    rw [forms.expr, Expr.numbers_tied, forms.numbers]
  rw [Regex.groupCount, Regex.groupCount, ← Expr.length_numbers, ← Expr.length_numbers, numbers]

/-! ### Templates -/

section Templates

variable {input pattern : List Char} {cause : Regex.Error}

theorem compile_of_refused {error : Error}
    (h : (Segment.ofPieces (Piece.cut input)).findSome? Segment.error? = some error) :
    compile input = .error error := by
  simp only [compile, h]

theorem compile_of_placeholders
    (h : (Segment.ofPieces (Piece.cut input)).findSome? Segment.error? = none) :
    compile input = build input (Segment.ofPieces (Piece.cut input)) := by
  simp only [compile, h]

theorem counted_ofPieces (pieces : List Piece) : ∀ segment ∈ Segment.ofPieces pieces,
    segment.groupCount? = Regex.groupCount? segment.body :=
  fun _ hmem => Segment.groupCount?_of_mem hmem

/-- If no placeholder is refused, all depends on the assembled expression. -/
theorem compile_of_accepted
    (accepted : PlaceholdersAccepted (Segment.ofPieces (Piece.cut input))) :
    compile input = build input (Segment.ofPieces (Piece.cut input)) :=
  compile_of_placeholders ((findSome?_error?_eq_none_iff (counted_ofPieces _)).2 accepted)

/-- **A placeholder is complained about** exactly if it is the first one that is refused. -/
theorem compile_eq_placeholder_iff {name : List Char} :
    compile input = .error (.placeholder name pattern cause) ↔
      FirstRefused (Segment.ofPieces (Piece.cut input)) name pattern cause := by
  have blamed {error : Error} : _ = some error ↔ _ :=
    findSome?_error?_eq_some_iff (counted_ofPieces (Piece.cut input))
  constructor
  · intro h
    cases hblame : (Segment.ofPieces (Piece.cut input)).findSome? Segment.error? with
    | some error =>
        rw [compile_of_refused hblame] at h
        cases h
        obtain ⟨_, _, _, heq, hfirst⟩ := blamed.1 hblame
        cases heq
        exact hfirst
    | none =>
        rw [compile_of_placeholders hblame, build_eq_error_iff] at h
        obtain ⟨_, hcause, -⟩ := h
        cases hcause
  · intro hfirst
    exact compile_of_refused (blamed.2 ⟨name, pattern, cause, rfl, hfirst⟩)

/-- **The assembled expression is complained about** exactly if no placeholder is refused, and it
does not compile or neither of its forms between both ends does. -/
theorem compile_eq_error_build_iff :
    compile input = .error (.build pattern cause) ↔
      PlaceholdersAccepted (Segment.ofPieces (Piece.cut input)) ∧
        pattern = assemble (Segment.ofPieces (Piece.cut input)) ∧
        (Regex.compile (assemble (Segment.ofPieces (Piece.cut input))) = .error cause ∨
          (∃ search, Regex.compile (assemble (Segment.ofPieces (Piece.cut input))) = .ok search) ∧
            Regex.compile (anchored (assemble (Segment.ofPieces (Piece.cut input)))) =
              .error cause ∧
            ∃ other, Regex.compile (anchored
              (assemble (Segment.ofPieces (Piece.cut input)) ++ ['\n'])) = .error other) := by
  constructor
  · intro h
    cases hblame : (Segment.ofPieces (Piece.cut input)).findSome? Segment.error? with
    | some error =>
        obtain ⟨_, _, _, rfl, -⟩ :=
          (findSome?_error?_eq_some_iff (counted_ofPieces (Piece.cut input))).1 hblame
        rw [compile_of_refused hblame] at h
        cases h
    | none =>
        have accepted := (findSome?_error?_eq_none_iff (counted_ofPieces _)).1 hblame
        rw [compile_of_placeholders hblame, build_eq_error_iff] at h
        obtain ⟨_, hcause, hcases⟩ := h
        cases hcause
        rw [compileWhole_eq_error_iff] at hcases
        exact ⟨accepted, rfl, hcases⟩
  · rintro ⟨accepted, rfl, hcases⟩
    rw [compile_of_accepted accepted, build_eq_error_iff]
    exact ⟨cause, rfl, hcases.imp_right fun h => ⟨h.1, compileWhole_eq_error_iff.2 h.2⟩⟩

/-- **What is not complained about is accepted.** -/
theorem exists_compile_of_accepted
    (accepted : PlaceholdersAccepted (Segment.ofPieces (Piece.cut input)))
    (hsearch : ∃ search,
      Regex.compile (assemble (Segment.ofPieces (Piece.cut input))) = .ok search)
    (hwhole : ∃ whole,
      Regex.compile (anchored (assemble (Segment.ofPieces (Piece.cut input)))) = .ok whole ∨
      Regex.compile (anchored (assemble (Segment.ofPieces (Piece.cut input)) ++ ['\n'])) =
        .ok whole) : ∃ template, compile input = .ok template := by
  cases hcompile : compile input with
  | ok template => exact ⟨template, rfl⟩
  | error error =>
      obtain ⟨search, hsearch⟩ := hsearch
      rw [compile_of_accepted accepted, build_eq_error_iff] at hcompile
      obtain ⟨cause, -, hplain | ⟨-, htied⟩⟩ := hcompile
      · cases hsearch.symm.trans hplain
      · obtain ⟨hfirst, other, hsecond⟩ := compileWhole_eq_error_iff.1 htied
        obtain ⟨whole, hwhole | hwhole⟩ := hwhole
        · cases hwhole.symm.trans hfirst
        · cases hwhole.symm.trans hsecond

end Templates

/-- **How a template is refused, and how it is accepted.**  The first placeholder whose expression
does not compile is blamed, whatever the assembled expression is.  If there is none, the assembled
expression is blamed exactly if it does not compile or neither of its forms between both ends of the
text does.  If none of this is so, the template is accepted. -/
theorem compile_outcome (input : List Char) :
    let segments : List Segment := Segment.ofPieces (Piece.cut input)
    let source := segments.flatMap fun segment =>
      if segment.isPlaceholder then '(' :: segment.body ++ [')'] else segment.body
    let tied := Regex.compile ("\\A(?:".toList ++ source ++ ")\\z".toList)
    let tiedWithLineFeed := Regex.compile ("\\A(?:".toList ++ (source ++ ['\n']) ++ ")\\z".toList)
    (∀ name pattern cause, compile input = .error (.placeholder name pattern cause) ↔
      FirstRefused segments name pattern cause) ∧
    (∀ pattern cause, compile input = .error (.build pattern cause) ↔
      PlaceholdersAccepted segments ∧ pattern = source ∧ (Regex.compile source = .error cause ∨
        (∃ search, Regex.compile source = .ok search) ∧ tied = .error cause ∧
          ∃ other, tiedWithLineFeed = .error other)) ∧
    (PlaceholdersAccepted segments → (∃ search, Regex.compile source = .ok search) →
      (∃ whole, tied = .ok whole ∨ tiedWithLineFeed = .ok whole) →
      ∃ template, compile input = .ok template ∧ template.source = source ∧
        template.search.source = source ∧
        template.search.groupCount = template.whole.groupCount) := by
  intro segments source tied tiedWithLineFeed
  refine ⟨fun name pattern cause => compile_eq_placeholder_iff,
    fun pattern cause => compile_eq_error_build_iff, fun accepted hsearch hwhole => ?_⟩
  obtain ⟨template, hcompile⟩ := exists_compile_of_accepted accepted hsearch hwhole
  obtain ⟨hcompiled, -, hsegments, -⟩ := accepted_of_compile hcompile
  have same : template.source = source := congrArg assemble hsegments
  refine ⟨template, hcompile, same, ?_, groupCount_search_eq hcompile⟩
  rw [source_of_compile hcompiled, same]

/-- Of two placeholders that are refused the first is blamed, though the assembled expression is
accepted. -/
example : (∃ error ∈ (match compile "{{a,x)(y}}{{b,)(}}".toList with
      | .error (.placeholder name pattern _) => some (name, pattern)
      | _ => none), error = (['a'], "x)(y".toList)) ∧
    (Regex.compile "(x)(y)()()".toList).toOption.isSome := by
  decide +kernel

end ParamTemplate.Template
