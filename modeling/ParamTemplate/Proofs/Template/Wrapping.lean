/-
**Tying an expression to both ends adds nothing to it.**

An accepted expression, tied to both ends of the text, keeps its groups, matches a text exactly if
the expression matches all of it, and prefers the match that the expression itself prefers among
those that cover the text.

Two things can go wrong.  An expression with a comment at its end needs a line feed behind it, and
may exceed a limit only then; it is refused with the complaint about the form without the line feed,
in which the group is not closed.  And the form without the line feed may be too large where the one
with it is not, because all branches begin alike only with the line feed.

Main definition:

* `Regex.groups` — the groups that an accepted expression keeps, with their names.

Main results:

* `Template.compileWhole_transparent` — **what an accepted expression becomes between both ends**;
* `Template.exists_unclosed_and_lost` — an expression that is refused with another complaint than
  that about the limit that it exceeds, and one that no longer matches what it matched.
-/

import ParamTemplate.Proofs.Regex.Placing
import ParamTemplate.Proofs.Template.Anchoring

set_option autoImplicit false

namespace ParamTemplate

/-- **The groups that an accepted expression keeps,** in the order in which they are opened, with
their names. -/
def Regex.groups (regex : Regex) : List (Nat × Option (List Char)) :=
  regex.expr.numbers.map fun number =>
    (number, ((Regex.Pattern.read regex.source).toOption.bind (·.groupNames.lookup number)).join)

namespace Template

open Regex Regex.Reader

variable {source text : List Char} {search whole : Regex} {s : Reader} {p q : Pattern} {e : Expr}

/-! ### Refusals -/

/-- With a line feed behind it, the comment at the end of an expression ends, and what is left is
the expression. -/
theorem compile_anchored_lineFeed {flags : Flags} (h : Alone source s p)
    (hcomment : s.comment = true) (he : p.meaning {} = .ok (e, flags)) :
    (∃ regex, Regex.compile (anchored (source ++ ['\n'])) = .ok regex ∧ regex.expr = e.tied) ∨
      ∃ cause, Regex.compile (anchored (source ++ ['\n'])) = .error cause ∧ cause.IsLimit := by
  obtain ⟨t, q, hq, hend, hcases⟩ := exists_alone_lineFeed h
  rcases hcases with ⟨-, hcongruent⟩ | ⟨hverbose, -⟩
  · exact compile_anchored hq hend (Pattern.Congruent.meaning hcongruent.symm he)
  · rw [h.comment hverbose] at hcomment
    cases hcomment

/-- An expression with a comment at its end is refused between both ends only if it exceeds a limit
with a line feed behind it.  But what is complained about is the form without the line feed. -/
theorem unclosed_of_comment {flags : Flags} {cause : Regex.Error} (h : Alone source s p)
    (hcomment : s.comment = true) (he : p.meaning {} = .ok (e, flags))
    (hwhole : compileWhole source = .error cause) : cause.fault? = some .groupUnclosed ∧
      ∃ limit, Regex.compile (anchored (source ++ ['\n'])) = .error limit ∧ limit.IsLimit := by
  obtain ⟨unclosed, hunclosed, hfault⟩ := compile_anchored_of_comment h hcomment
  rw [compileWhole, hunclosed] at hwhole
  rcases compile_anchored_lineFeed h hcomment he with ⟨regex, hregex, -⟩ | ⟨limit, hlimit, hcause⟩
  · rw [hregex] at hwhole
    cases hwhole
  · rw [hlimit] at hwhole
    cases hwhole
    exact ⟨hfault, limit, hlimit, hcause⟩

/-- **Why an accepted expression is refused between both ends:** it exceeds a limit, or it has a
comment at its end and exceeds a limit with a line feed behind it. -/
theorem isLimit_of_compileWhole {cause : Regex.Error} (hsearch : Regex.compile source = .ok search)
    (hwhole : compileWhole source = .error cause) : cause.IsLimit ∨
      (endsInComment source ∧ cause.fault? = some .groupUnclosed ∧
        ∃ limit, Regex.compile (anchored (source ++ ['\n'])) = .error limit ∧ limit.IsLimit) := by
  obtain ⟨s, p, accepted⟩ := exists_accepted hsearch
  have hs := accepted.alone
  obtain ⟨flags, hmeaning⟩ := accepted.meaning
  cases hcomment : s.comment with
  | false => exact .inl (isLimit_of_refused hs hcomment hmeaning hwhole)
  | true =>
      exact .inr ⟨hs.endsInComment.trans hcomment, unclosed_of_comment hs hcomment hmeaning hwhole⟩

/-! ### Groups -/

theorem groupNames_tie (p : Pattern) (length : Nat) : (tie p length).groupNames = p.groupNames := by
  have inside : (p.relabel wrapper.relabelling).groupNames = p.groupNames := by
    rw [Pattern.groupNames_relabel, number_wrapper]
    exact List.map_id _
  rw [← inside]
  simp [tie, Pattern.groupNames, Pattern.allGroupNames, GroupKind.groupNames]

namespace Forms

variable (forms : Forms source search whole s p q e)

include forms

/-- The expression between the ends keeps the same groups. -/
theorem numbers : e.numbers = search.expr.numbers := by
  rcases forms.cases with rfl | ⟨-, -, -, rfl⟩
  · rfl
  · obtain ⟨flags, hmeaning⟩ := forms.meaning
    obtain ⟨flags', he⟩ := forms.inside
    have hs := forms.alone
    rw [← hs.close] at hmeaning
    refine Level.numbers_of_lineFeed ?_ hmeaning he
    rw [hs.close, hs.numbers]
    exact List.nodup_range'

/-- **Between the ends an expression has the same groups,** with the same numbers and names. -/
theorem groups (hsearch : Regex.compile source = .ok search) : whole.groups = search.groups := by
  have hread := (forms.alone.accepted hsearch).read
  obtain ⟨length, hwhole⟩ := forms.read
  have names : (tie q length).groupNames = p.groupNames :=
    (groupNames_tie q length).trans forms.groupNames
  have numbers : whole.expr.numbers = search.expr.numbers := by
    rw [forms.expr, Expr.numbers_tied, forms.numbers]
  rw [Regex.groups, Regex.groups, source_of_compile hsearch, hread, hwhole, numbers]
  simp only [Except.toOption, Option.bind_some, names]

end Forms

/-! ### Matches -/

/-- **The match of a tied expression** is the one that the expression prefers among those that cover
the text. -/
theorem captures?_eq_some_iff_of_tied (hsearch : Regex.compile source = .ok search)
    (hwhole : compileWhole source = .ok whole) (tied : whole.expr = search.expr.tied)
    {captures : Captures} : whole.captures? text = some captures ↔ ∃ saves,
      Preferred (fun choices saves => search.program.Way text 0 choices saves text.length) saves ∧
      captures = { text, slots := remember search.program.blank saves } := by
  rw [captures?, program_of_compileWhole hwhole, tied, program_of_compile hsearch,
    Option.map_eq_some_iff]
  constructor
  · rintro ⟨slots, hslots, rfl⟩
    obtain ⟨saves, hsaves, rfl⟩ := Expr.search_tied_eq_some_iff.1 hslots
    exact ⟨saves, hsaves, rfl⟩
  · rintro ⟨saves, hsaves, rfl⟩
    exact ⟨_, Expr.search_tied_eq_some_iff.2 ⟨saves, hsaves, rfl⟩, rfl⟩

/-- **What an accepted expression becomes between both ends.**  If it is refused, it exceeds a
limit, or it has a comment at its end and exceeds a limit with a line feed behind it.  If it is
accepted, it has the same groups; and unless the form without the line feed is too large, it matches
a text if and only if the expression matches all of it, and the match is the one that the expression
prefers among those that cover the text. -/
theorem compileWhole_transparent (hsearch : Regex.compile source = .ok search) :
    (∀ cause, compileWhole source = .error cause → cause.IsLimit ∨
      (endsInComment source ∧ cause.fault? = some .groupUnclosed ∧
        ∃ limit, Regex.compile (anchored (source ++ ['\n'])) = .error limit ∧ limit.IsLimit)) ∧
    ∀ whole, compileWhole source = .ok whole → whole.groups = search.groups ∧
      (Regex.compile (anchored source) ≠ .error .tooLarge → ∀ text,
        (whole.isMatch text ↔ search.expr.Matches text 0 text.length) ∧
        ∀ captures, whole.captures? text = some captures ↔ ∃ saves,
          Preferred (fun choices saves => search.program.Way text 0 choices saves text.length)
            saves ∧
          captures = { text, slots := remember search.program.blank saves }) := by
  refine ⟨fun cause => isLimit_of_compileWhole hsearch, fun whole hwhole => ?_⟩
  obtain ⟨s, p, q, e, forms⟩ := exists_forms hsearch hwhole
  refine ⟨forms.groups hsearch, fun hsize text => ?_⟩
  have tied := forms.tied hsize
  exact ⟨isMatch_iff_of_tied hwhole tied text, fun captures =>
    captures?_eq_some_iff_of_tied hsearch hwhole tied⟩

/-- A comment, a choice and a group with a name. -/
theorem compileWhole_transparent_of_comment : ∃ search whole,
    Regex.compile "(?x)(?P<_>a|ab)(b?) #c".toList = .ok search ∧
    compileWhole "(?x)(?P<_>a|ab)(b?) #c".toList = .ok whole ∧
    whole.groups = search.groups ∧ search.expr.Matches "ab".toList 0 2 ∧
    ∃ saves,
      Preferred (fun choices saves => search.program.Way "ab".toList 0 choices saves 2) saves ∧
      remember search.program.blank saves =
        #[some 0, some 2, some 0, some 1, some 1, some 2] := by
  obtain ⟨search, hsearch, -⟩ :
      ∃ search, Regex.compile "(?x)(?P<_>a|ab)(b?) #c".toList = .ok search ∧ True :=
    exists_eq_ok (by decide +kernel)
  obtain ⟨whole, hwhole, hmatch, hslots⟩ :
      ∃ whole, compileWhole "(?x)(?P<_>a|ab)(b?) #c".toList = .ok whole ∧
        whole.isMatch "ab".toList ∧ whole.captures? "ab".toList = some {
          text := "ab".toList, slots := #[some 0, some 2, some 0, some 1, some 1, some 2] } :=
    exists_eq_ok (by decide +kernel)
  have small : Regex.compile (anchored "(?x)(?P<_>a|ab)(b?) #c".toList) ≠ .error .tooLarge := by
    obtain ⟨cause, hcause, hfault⟩ :
        ∃ cause, Regex.compile (anchored "(?x)(?P<_>a|ab)(b?) #c".toList) = .error cause ∧
          cause.fault? = some .groupUnclosed := exists_eq_error (by decide +kernel)
    intro h
    cases hcause.symm.trans h
    cases hfault
  obtain ⟨hgroups, hmatches⟩ := (compileWhole_transparent hsearch).2 whole hwhole
  obtain ⟨hiff, hcaptures⟩ := hmatches small "ab".toList
  obtain ⟨saves, hsaves, heq⟩ := (hcaptures _).1 hslots
  exact ⟨search, whole, hsearch, hwhole, hgroups, hiff.1 hmatch, saves, hsaves,
    (congrArg Captures.slots heq).symm⟩

/-! ### Too deep and too large -/

/-- A repetition of repetitions, as deep as is allowed on its own, with a comment behind it. -/
def deepest : List Char := "(?x)a".toList ++ List.replicate 248 '+' ++ ['#']

/-- Two branches that begin alike only if there is something behind the second one. -/
def alike : List Char :=
  "(?:\\Aa\x7b0,36405\x7d)\x7b1,2\x7dbbbbbbbbbbb|(?:\\Aa\x7b0,36405\x7d)\x7b1,2\x7d".toList

/-- What both branches begin with. -/
def beginning : Expr :=
  .repetition 1 (some 2) true
    (.cat (.look .textStart) (.repetition 0 (some 36405) true (.text ['a'])))

theorem matches_beginning : beginning.Matches [] 0 0 := by
  have start : (Expr.look .textStart).Run [] 0 [] 0 := ⟨rfl, rfl, rfl⟩
  have none : (Expr.repetition 0 (some 36405) true (.text ['a'])).Run [] 0 [] 0 :=
    ⟨0, Nat.le_refl 0, fun _ _ => .inl (Nat.le_refl 0), .zero 0⟩
  exact ⟨[], 1, Nat.le_refl 1, fun _ _ => .inl (Nat.le_refl 1),
    .one ⟨[], 0, [], start, none, rfl⟩⟩

/-- **What can go wrong.**  The first expression is refused because it is too deep with a line feed
behind it, but with the complaint that a group is not closed.  The second one is too large without
the line feed, and with it no longer matches the empty text. -/
theorem exists_unclosed_and_lost :
    (∃ search cause, Regex.compile deepest = .ok search ∧
      compileWhole deepest = .error cause ∧ cause.fault? = some .groupUnclosed ∧
        ¬cause.IsLimit) ∧
    ∃ search whole, Regex.compile alike = .ok search ∧ compileWhole alike = .ok whole ∧
      search.expr.Matches [] 0 0 ∧ ¬whole.isMatch [] := by
  obtain ⟨search, hsearch, hexpr⟩ : ∃ search, Regex.compile alike = .ok search ∧
      search.expr = .alt (.cat beginning (.text "bbbbbbbbbbb".toList)) beginning :=
    exists_eq_ok (by decide +kernel)
  obtain ⟨whole, hwhole, htied⟩ : ∃ whole, compileWhole alike = .ok whole ∧ whole.expr =
      (Expr.cat beginning (.alt (.text "bbbbbbbbbbb".toList) (.text ['\n']))).tied :=
    exists_eq_ok (by decide +kernel)
  -- Behind the common beginning there is always a character.
  have lost : ¬whole.isMatch [] := by
    rw [isMatch_iff_of_tied hwhole htied]
    rintro ⟨saves, _, k, _, -, hend | hend, -⟩
    · simp [Expr.Run] at hend
    · simp [Expr.Run] at hend
  obtain ⟨saves, hrun⟩ := matches_beginning
  obtain ⟨deep, hdeep, -⟩ : ∃ deep, Regex.compile deepest = .ok deep ∧ True :=
    exists_eq_ok (by decide +kernel)
  obtain ⟨cause, hcause, hfault, hlimit⟩ : ∃ cause, compileWhole deepest = .error cause ∧
      cause.fault? = some .groupUnclosed ∧ ¬cause.IsLimit := exists_eq_error (by decide +kernel)
  exact ⟨⟨deep, cause, hdeep, hcause, hfault, hlimit⟩, search, whole, hsearch, hwhole,
    hexpr ▸ ⟨saves, .inr hrun⟩, lost⟩

end Template

end ParamTemplate
