/-
**Groups inside of segments do not show.**

The groups that are written inside of segments can lose their numbers, so that other numbers belong
to the placeholders.  The template is still accepted, unless it becomes too large, and it occurs in
the same texts.  The same texts conform to it, if no line feed is needed to tie it to both ends, and
then the placeholders have the same values, if the groups are counted rightly and no choice is tried
in another order.

A choice may be tried in another order since it is simplified as it is built: what all branches
begin with is taken out of it.  A group in one of the branches prevents that.

Main definitions:

* `Template.Regrouping` — what is assembled from segments, and from the same ones with fewer groups;
* `Template.Regroups` — a template is another one in which some groups have lost their numbers;
* `Template.IsFair` — what is asked of templates whose values are the same.

Main results:

* `Template.compile_regroups` — **groups inside of segments do not show**;
* `Template.exists_shown_group` — where they do.
-/

import ParamTemplate.Proofs.Regex.Keeping
import ParamTemplate.Proofs.Regex.Surviving
import ParamTemplate.Proofs.Template.Accepting
import ParamTemplate.Proofs.Template.Cutting
import ParamTemplate.Proofs.Template.Regrouping

set_option autoImplicit false

namespace ParamTemplate

namespace Template

open Regex Regex.Reader

/-! ### Segments -/

/-- In lists that are related item by item, each item has one at the same place. -/
theorem exists_getElem?_of_forall₂ {α β : Type} {R : α → β → Prop} {as : List α} {bs : List β}
    (h : List.Forall₂ R as bs) {k : Nat} {b : β} (hk : bs[k]? = some b) :
    ∃ a, as[k]? = some a ∧ R a b := by
  induction h generalizing k with
  | nil => cases hk
  | @cons a _ _ _ hab _ ih =>
      cases k with
      | zero =>
          cases hk
          exact ⟨a, rfl, hab⟩
      | succ k => exact ih hk

namespace Segment

variable {segment segment' : Segment}

/-- A segment keeps its groups if its meaning has all groups that are written in it. -/
theorem width_eq_written_iff (hcount : segment.groupCount? = Regex.groupCount? segment.body)
    {regex : Regex} {p : Pattern} {flags : Flags} (hregex : Regex.compile segment.body = .ok regex)
    (hp : Pattern.read segment.body = .ok p) (he : p.meaning {} = .ok (regex.expr, flags)) :
    segment.width = segment.written ↔ regex.expr.numbers = p.groupMarks.map Prod.snd := by
  have counted : segment.groupCount?.getD 0 = regex.expr.numbers.length := by
    rw [hcount, Regex.groupCount?, hregex, Expr.length_numbers]
    rfl
  have marks : ((Pattern.read segment.body).toOption.map (·.groupMarks.length)).getD 0 =
      (p.groupMarks.map Prod.snd).length := by
    rw [hp, List.length_map]
    rfl
  rw [width, written, counted, marks, Nat.add_right_cancel_iff]
  constructor
  · exact (Pattern.numbers_sublist p he).eq_of_length
  · exact congrArg List.length

theorem index?_of_literal (h : segment.isPlaceholder = false) : segment.index? = none := by
  cases hindex : segment.index? with
  | none => rfl
  | some index =>
      rw [isPlaceholder_of_index? hindex] at h
      cases h

namespace Regroups

/-- What is known of a segment that stands on its own, and of the one with fewer groups. -/
theorem exists_read (h : segment.Regroups segment') (hstands : segment.Stands) :
    ∃ kept u p p' flags e', KeepsApart kept ∧ Alone segment.body u p ∧
      Pattern.read segment.body = .ok p ∧ Pattern.read segment'.body = .ok p' ∧
      p.Uncounts kept p' ∧ p.meaning {} = .ok (segment.expr, flags) ∧
      p'.meaning {} = .ok (e', flags) := by
  obtain ⟨u, p, flags, hu, hp, he, -⟩ := hstands.exists_alone
  obtain ⟨lost, hlost⟩ := h.body
  obtain ⟨u', p', hu', -, huncounts⟩ := hlost.exists_alone hu
  have hp' := hu'.read ((huncounts.tooDeep?_eq_none_iff 0).2 (Reader.exists_alone hp).2)
  obtain ⟨e', he', -⟩ := Pattern.exists_matchAlike (keepsApart_losing lost) huncounts he
  exact ⟨_, u, p, p', flags, e', keepsApart_losing lost, hu, hp, hp', huncounts, he, he'⟩

/-- **A segment with fewer groups is accepted on its own, unless it becomes too large.** -/
theorem compile_cases (h : segment.Regroups segment') (hstands : segment.Stands) :
    (∃ regex, Regex.compile segment'.body = .ok regex) ∨
      Regex.compile segment'.body = .error .tooLarge := by
  obtain ⟨-, -, -, p', flags, e', -, -, -, hp', -, -, he'⟩ := h.exists_read hstands
  exact (compile_of_read hp' he').imp (fun ⟨regex, hregex, _⟩ => ⟨regex, hregex⟩) And.right

/-- What is complained about is that the segment is too large. -/
theorem cause_of_error? (h : segment.Regroups segment') (hstands : segment.Stands) {error : Error}
    (herror : segment'.error? = some error) : error.cause = .tooLarge := by
  unfold Segment.error? at herror
  split at herror
  · split at herror
    · cases herror
    next cause hcause =>
      cases herror
      rcases h.compile_cases hstands with ⟨regex, hregex⟩ | hlarge
      · cases hcause.symm.trans hregex
      · cases hcause.symm.trans hlarge
        rfl
  · cases herror

/-- **A segment that keeps all of its groups keeps those that are left.** -/
theorem width_eq_written (h : segment.Regroups segment') (hstands : segment.Stands)
    (hcount : segment.groupCount? = Regex.groupCount? segment.body)
    (hcount' : segment'.groupCount? = Regex.groupCount? segment'.body)
    {regex' : Regex} (hregex' : Regex.compile segment'.body = .ok regex')
    (hwidth : segment.width = segment.written) : segment'.width = segment'.written := by
  obtain ⟨kept, u, p, p', flags, e', hkept, hu, hp, hp', huncounts, he, he'⟩ :=
    h.exists_read hstands
  obtain ⟨regex, hregex⟩ := hstands.accepted
  have hexpr : segment.expr = regex.expr := by
    rw [Segment.expr, hregex]
  obtain ⟨q, flags', hq, hmeaning⟩ := read_of_compile hregex'
  cases hp'.symm.trans hq
  cases he'.symm.trans hmeaning
  have nodup : (p.groupMarks.map Prod.snd).Nodup := by
    rw [hu.numbers]
    exact List.nodup_range'
  rw [hexpr] at he
  rw [width_eq_written_iff hcount hregex hp he] at hwidth
  rw [width_eq_written_iff hcount' hregex' hp' he']
  exact Pattern.numbers_of_uncounts hkept huncounts nodup he he' hwidth

end Regroups

end Segment

/-! ### What is assembled -/

variable {segments segments' : List Segment} {s s' : Reader} {p p' : Pattern} {source : List Char}

/-- **What is assembled from segments, and from the same segments with fewer groups.** -/
structure Regrouping (segments segments' : List Segment) (kept : Nat → Option Nat) (s s' : Reader)
    (p p' : Pattern) : Prop where
  alone : Alone (assemble segments) s p
  alone' : Alone (assemble segments') s' p'
  keepsApart : KeepsApart kept
  verbose : s.verbose = false
  comment : s.comment = false
  comment' : s'.comment = false
  uncounts : p.Uncounts kept p'
  /-- Placeholders keep their groups. -/
  number : ∀ k segment, segments[k]? = some segment → segment.isPlaceholder →
    kept (written (segments.take k) + 1) = some (written (segments'.take k) + 1)

/-- What is assembled loses the groups that its segments lose. -/
theorem exists_regrouping (hstands : ∀ segment ∈ segments, segment.Stands)
    (hrel : List.Forall₂ Segment.Regroups segments segments')
    (hs : Alone (assemble segments) s p) :
    ∃ kept s' p', Regrouping segments segments' kept s s' p p' := by
  obtain ⟨lost, hregroups, hnumber⟩ := exists_regroups hstands hrel hs.feed
  obtain ⟨s', p', hs', hlock, huncounts⟩ := hregroups.exists_alone hs
  obtain ⟨t, ht, -⟩ := ready_of_segments hstands resting_start.ready hs.feed
  have verbose : s.verbose = false := by
    rw [← verbose_settled, ht.settled, ht.resting.verbose]
  have comment : s.comment = false := hs.comment verbose
  exact ⟨_, s', p', hs, hs', keepsApart_losing lost, verbose, comment,
    hlock.alike.comment.trans comment, huncounts, hnumber⟩

/-- An expression that is not too deep between the ends of the text can be read there. -/
theorem read_anchored (h : Alone source s p) (hcomment : s.comment = false)
    (hdeep : p.tooDeep? 2 = none) :
    Pattern.read (anchored source) = .ok (tie p source.length) := by
  obtain ⟨t, ht⟩ := alone_anchored h hcomment
  refine ht.read ?_
  rw [← Option.not_isSome_iff_eq_none, isSome_tooDeep?_tie, hdeep]
  exact Bool.false_ne_true

/-- An expression that is accepted between the ends of the text is not too deep there. -/
theorem tooDeep?_of_compileWhole {search whole : Regex} {flags : Flags} (h : Alone source s p)
    (hverbose : s.verbose = false) (he : p.meaning {} = .ok (search.expr, flags))
    (hwhole : compileWhole source = .ok whole) : p.tooDeep? 2 = none := by
  have shallow : ∀ {q}, Pattern.read (anchored source) = .ok q → p.tooDeep? 2 = none := by
    intro q hq
    obtain ⟨⟨t, ht⟩, hdeep⟩ := exists_alone hq
    obtain ⟨u, hu⟩ := alone_anchored h (h.comment hverbose)
    obtain rfl := ht.eq hu
    rw [← Option.not_isSome_iff_eq_none, ← isSome_tooDeep?_tie p source.length, hdeep]
    exact Bool.false_ne_true
  unfold compileWhole at hwhole
  split at hwhole
  next regex hfirst =>
    obtain ⟨q, -, hq, -⟩ := read_of_compile hfirst
    exact shallow hq
  next cause hfirst =>
    split at hwhole
    next regex hsecond =>
      cases hwhole
      obtain ⟨t, q, hq, hcomment, hcases⟩ := exists_alone_lineFeed h
      obtain ⟨hread, -⟩ := between_of_compile hq hcomment hsecond
      rcases hcases with ⟨hblanks, -⟩ | ⟨-, rfl⟩
      · cases hverbose.symm.trans hblanks
      · -- The line feed is one more item, and does not make the expression less deep.
        obtain ⟨-, hlarge⟩ := tooLarge_of_lineFeed h hverbose he hfirst hread
        cases hp : Pattern.read (anchored source) with
        | ok q => exact shallow hp
        | error complaint =>
            rw [compile_of_error (Expr.read_of_error hp)] at hlarge
            cases hlarge
    · cases hwhole

/-- What can be read between the ends of the text is accepted there, unless it becomes too large. -/
theorem compileWhole_of_read {length : Nat} {e : Expr} {flags : Flags}
    (hread : Pattern.read (anchored source) = .ok (tie p length))
    (he : p.meaning {} = .ok (e, flags)) :
    (∃ whole, compileWhole source = .ok whole) ∨ compileWhole source = .error .tooLarge := by
  unfold compileWhole
  rcases compile_of_read hread (meaning_tie he length) with ⟨first, hfirst, -⟩ | ⟨-, hlarge⟩
  · rw [hfirst]
    exact .inl ⟨first, rfl⟩
  · rw [hlarge]
    dsimp only
    split
    next second _ => exact .inl ⟨second, rfl⟩
    · exact .inr rfl

/-- **The template with fewer groups is built, unless it becomes too large.** -/
theorem build_of_regrouping {kept : Nat → Option Nat} {search whole : Regex}
    (h : Regrouping segments segments' kept s s' p p')
    (hsearch : Regex.compile (assemble segments) = .ok search)
    (hwhole : compileWhole (assemble segments) = .ok whole) (text : List Char) :
    (∃ template, build text segments' = .ok template) ∨
      build text segments' = .error (.build (assemble segments') .tooLarge) := by
  have accepted := h.alone.accepted hsearch
  obtain ⟨flags, he⟩ := accepted.meaning
  obtain ⟨e', he', -⟩ := Pattern.exists_matchAlike h.keepsApart h.uncounts he
  have hp' := h.alone'.read ((h.uncounts.tooDeep?_eq_none_iff 0).2 accepted.tooDeep?)
  have anchored' := read_anchored h.alone' h.comment' ((h.uncounts.tooDeep?_eq_none_iff 2).2
    (tooDeep?_of_compileWhole h.alone h.verbose he hwhole))
  unfold build
  dsimp only
  rcases compile_of_read hp' he' with ⟨search', hsearch', -⟩ | ⟨-, hlarge⟩
  · rw [hsearch']
    dsimp only
    rcases compileWhole_of_read anchored' he' with ⟨whole', hwhole'⟩ | hlarge
    · rw [hwhole']
      exact .inl ⟨_, rfl⟩
    · rw [hlarge]
      exact .inr rfl
  · rw [hlarge]
    exact .inr rfl

/-! ### Templates -/

variable {input input' text name : List Char} {template template' : Template}

/-- **Whether a template is another one in which some groups have lost their numbers.** -/
def Regroups (input input' : List Char) : Prop :=
  List.Forall₂ Segment.Regroups (Segment.ofPieces (Piece.cut input))
    (Segment.ofPieces (Piece.cut input'))

/-- **A template with fewer groups is accepted, unless it becomes too large.** -/
theorem compile_of_regroups (h : compile input = .ok template)
    (hstands : ∀ segment ∈ template.segments, segment.Stands) (hrel : Regroups input input') :
    (∃ template', compile input' = .ok template') ∨
      ∃ error, compile input' = .error error ∧ error.cause = .tooLarge := by
  obtain ⟨hsearch, hwhole, hsegments, -⟩ := accepted_of_compile h
  rw [hsegments] at hstands
  rw [source, hsegments] at hsearch hwhole
  obtain ⟨s, p, accepted⟩ := exists_accepted hsearch
  obtain ⟨kept, s', p', hregrouping⟩ := exists_regrouping hstands hrel accepted.alone
  unfold compile
  dsimp only
  cases hfind : (Segment.ofPieces (Piece.cut input')).findSome? Segment.error? with
  | some error =>
      obtain ⟨segment', hsegment', herror⟩ := List.exists_of_findSome?_eq_some hfind
      obtain ⟨k, hk⟩ := List.mem_iff_getElem?.1 hsegment'
      obtain ⟨segment, hsegment, hregroups⟩ := exists_getElem?_of_forall₂ hrel hk
      have hsegment := List.mem_of_getElem? hsegment
      exact .inr ⟨error, rfl, hregroups.cause_of_error? (hstands segment hsegment) herror⟩
  | none =>
      rcases build_of_regrouping hregrouping hsearch hwhole input' with
        ⟨template', htemplate'⟩ | hlarge
      · exact .inl ⟨template', htemplate'⟩
      · exact .inr ⟨_, hlarge, rfl⟩

/-- **Whether the choices that lose a group are fair,** in both templates. -/
def IsFair (template template' : Template) : Prop :=
  ∃ p p', Pattern.read template.source = .ok p ∧ Pattern.read template'.source = .ok p' ∧
    p.agrees Expr.isFair {} p'

instance (template template' : Template) : Decidable (template.IsFair template') :=
  decidable_of_iff (∃ p ∈ (Pattern.read template.source).toOption,
      ∃ p' ∈ (Pattern.read template'.source).toOption, p.agrees Expr.isFair {} p')
    ⟨fun ⟨p, hp, p', hp', h⟩ => ⟨p, p', eq_ok_of_toOption hp, eq_ok_of_toOption hp', h⟩,
      fun ⟨p, p', hp, hp', h⟩ => ⟨p, by rw [hp]; rfl, p', by rw [hp']; rfl, h⟩⟩

/-- The segments of two accepted templates, one of them with fewer groups, are related. -/
theorem Regroups.forall₂ (hrel : Regroups input input') (h : compile input = .ok template)
    (h' : compile input' = .ok template') :
    List.Forall₂ Segment.Regroups template.segments template'.segments := by
  obtain ⟨-, -, hsegments, -⟩ := accepted_of_compile h
  obtain ⟨-, -, hsegments', -⟩ := accepted_of_compile h'
  rw [hsegments, hsegments']
  exact hrel

/-- What is known of two accepted templates, one of them with fewer groups. -/
theorem exists_regrouping_of_compile (h : compile input = .ok template)
    (h' : compile input' = .ok template') (hstands : ∀ segment ∈ template.segments, segment.Stands)
    (hrel : Regroups input input') :
    ∃ kept s s' p p' flags, Regrouping template.segments template'.segments kept s s' p p' ∧
      Pattern.read template.source = .ok p ∧ Pattern.read template'.source = .ok p' ∧
      p.meaning {} = .ok (template.search.expr, flags) ∧
      p'.meaning {} = .ok (template'.search.expr, flags) := by
  obtain ⟨s, p, accepted⟩ := exists_accepted (accepted_of_compile h).1
  obtain ⟨kept, s', p', hregrouping⟩ :=
    exists_regrouping hstands (hrel.forall₂ h h') accepted.alone
  have accepted' := hregrouping.alone'.accepted (accepted_of_compile h').1
  obtain ⟨flags, he⟩ := accepted.meaning
  obtain ⟨flags', he'⟩ := accepted'.meaning
  obtain ⟨e', hmeaning, -⟩ :=
    Pattern.exists_matchAlike hregrouping.keepsApart hregrouping.uncounts he
  cases hmeaning.symm.trans he'
  exact ⟨kept, s, s', p, p', flags, hregrouping, accepted.read, accepted'.read, he, he'⟩

section

variable {parameters parameters' : Parameters}

/-- **Whether the same is told about two segments,** the name and the value. -/
structure Parameters.TellAlike (parameters parameters' : Parameters) (segment segment' : Segment) :
    Prop where
  name : segment'.name? = segment.name?
  value : parameters'.value? segment' = parameters.value? segment

/-- All that is told is told about the segments one after the other. -/
theorem Parameters.pairs_eq_of_forall₂
    (h : List.Forall₂ (TellAlike parameters parameters') parameters.segments parameters'.segments) :
    parameters'.pairs = parameters.pairs := by
  unfold pairs
  generalize parameters.segments = segments at h ⊢
  generalize parameters'.segments = segments' at h ⊢
  induction h with
  | nil => rfl
  | cons hhead _ ih =>
      rw [List.filterMap_cons, List.filterMap_cons, ih, pair?, pair?, hhead.name, hhead.value]

theorem Parameters.get?_eq_of_forall₂
    (h : List.Forall₂ (TellAlike parameters parameters') parameters.segments parameters'.segments)
    (name : List Char) : parameters'.get? name = parameters.get? name := by
  unfold get?
  generalize parameters.segments = segments at h ⊢
  generalize parameters'.segments = segments' at h ⊢
  induction h with
  | nil => rfl
  | cons hhead _ ih =>
      rw [List.find?_cons, List.find?_cons, hhead.name]
      split
      · exact hhead.value
      · exact ih

end

section

variable (h : compile input = .ok template) (h' : compile input' = .ok template')
  (hstands : ∀ segment ∈ template.segments, segment.Stands) (hrel : Regroups input input')

include h h' hstands hrel

/-- Both expressions match the same. -/
theorem matchAlike_of_regroups : Expr.MatchAlike template.search.expr template'.search.expr := by
  obtain ⟨kept, s, s', p, p', flags, hregrouping, -, -, he, he'⟩ :=
    exists_regrouping_of_compile h h' hstands hrel
  obtain ⟨e', hmeaning, halike⟩ :=
    Pattern.exists_matchAlike hregrouping.keepsApart hregrouping.uncounts he
  cases hmeaning.symm.trans he'
  exact halike

/-- **Both templates occur in the same texts.** -/
theorem occursIn_eq_of_regroups (text : List Char) :
    template'.occursIn text = template.occursIn text := by
  have alike := matchAlike_of_regroups h h' hstands hrel
  rw [Bool.eq_iff_iff, occursIn_iff h, occursIn_iff h']
  simp only [alike.matches_iff]

/-- **The same texts conform to both templates.** -/
theorem isSome_parameters?_eq_of_regroups (hfits : template.FitsTied) (hfits' : template'.FitsTied)
    (text : List Char) :
    (template'.parameters? text).isSome = (template.parameters? text).isSome := by
  have alike := matchAlike_of_regroups h h' hstands hrel
  rw [Bool.eq_iff_iff, isSome_parameters?_iff h (whole_eq_of_fitsTied h hfits),
    isSome_parameters?_iff h' (whole_eq_of_fitsTied h' hfits'), alike.matches_iff]

/-- **A template with fewer groups keeps those that are left,** if the template keeps all. -/
theorem keepsGroups_of_regroups (hkeeps : KeepsGroups template.segments)
    (hsmall : ∀ segment' ∈ template'.segments, Regex.compile segment'.body ≠ .error .tooLarge) :
    KeepsGroups template'.segments := by
  have hrel := hrel.forall₂ h h'
  intro k segment' hk hplaceholder earlier' hearlier'
  obtain ⟨segment, hk, hregroups⟩ := exists_getElem?_of_forall₂ hrel hk
  obtain ⟨j, hj⟩ := List.mem_iff_getElem?.1 hearlier'
  obtain ⟨earlier, hj', hregroups'⟩ :=
    exists_getElem?_of_forall₂ (List.forall₂_take k hrel) hj
  have hearlier := List.mem_of_getElem? hj'
  have hmem := List.mem_of_mem_take hearlier
  have hmem' := List.mem_of_mem_take hearlier'
  have hwidth := hkeeps k segment hk (hregroups.isPlaceholder ▸ hplaceholder) earlier hearlier
  rcases hregroups'.compile_cases (hstands earlier hmem) with ⟨regex', hregex'⟩ | hlarge
  · exact hregroups'.width_eq_written (hstands earlier hmem)
      (groupCount?_of_compile h hmem) (groupCount?_of_compile h' hmem') hregex' hwidth
  · exact absurd hlarge (hsmall earlier' hmem')

/-- **A placeholder is given the same value by both templates.** -/
theorem value?_eq_of_regroups (hfits : template.FitsTied) (hfits' : template'.FitsTied)
    (hkeeps : KeepsGroups template.segments) (hkeeps' : KeepsGroups template'.segments)
    (hfair : template.IsFair template') {parameters parameters' : Parameters}
    (hparameters : template.parameters? text = some parameters)
    (hparameters' : template'.parameters? text = some parameters') {k : Nat}
    {segment segment' : Segment} (hk : template.segments[k]? = some segment)
    (hk' : template'.segments[k]? = some segment') (hregroups : segment.Regroups segment') :
    parameters'.value? segment' = parameters.value? segment := by
  cases hplaceholder : segment.isPlaceholder with
  | false =>
      have hplaceholder' := hregroups.isPlaceholder.trans hplaceholder
      rw [Parameters.value?, Parameters.value?, Segment.index?_of_literal hplaceholder,
        Segment.index?_of_literal hplaceholder']
      rfl
  | true =>
      have hplaceholder' := hregroups.isPlaceholder.trans hplaceholder
      obtain ⟨kept, s, s', p, p', flags, hregrouping, hp, hp', he, he'⟩ :=
        exists_regrouping_of_compile h h' hstands hrel
      obtain ⟨q, q', hq, hq', hagrees⟩ := hfair
      cases hq.symm.trans hp
      cases hq'.symm.trans hp'
      obtain ⟨e', hmeaning, hcounterparts⟩ := Pattern.exists_meaning_of_uncounts
        (Expr.parallel_counterparts kept) hregrouping.keepsApart p p' hregrouping.uncounts hagrees
        he
      cases hmeaning.symm.trans he'
      obtain ⟨slots, hslots, rfl⟩ := exists_search_of_parameters? h hparameters
      obtain ⟨slots', hslots', rfl⟩ := exists_search_of_parameters? h' hparameters'
      rw [whole_eq_of_fitsTied h hfits] at hslots
      rw [whole_eq_of_fitsTied h' hfits'] at hslots'
      have index := (index?_eq_iff h hk hplaceholder).2 (hkeeps k segment hk hplaceholder)
      have index' := (index?_eq_iff h' hk' hplaceholder').2 (hkeeps' k segment' hk' hplaceholder')
      rw [Parameters.value?, Parameters.value?, index, index']
      exact (Expr.group?_eq_of_counterparts hcounterparts hregrouping.keepsApart hslots hslots'
        (hregrouping.number k segment hk hplaceholder) (Nat.succ_pos _) (Nat.succ_pos _)).symm

/-- **Both templates give the same answers** about a text that conforms to them. -/
theorem pairs_eq_of_regroups (hfits : template.FitsTied) (hfits' : template'.FitsTied)
    (hkeeps : KeepsGroups template.segments) (hkeeps' : KeepsGroups template'.segments)
    (hfair : template.IsFair template') {parameters parameters' : Parameters}
    (hparameters : template.parameters? text = some parameters)
    (hparameters' : template'.parameters? text = some parameters') :
    parameters'.pairs = parameters.pairs ∧
      ∀ name, parameters'.get? name = parameters.get? name := by
  have alike : List.Forall₂ (Parameters.TellAlike parameters parameters') parameters.segments
      parameters'.segments := by
    rw [segments_of_parameters? hparameters, segments_of_parameters? hparameters']
    have hrel' := hrel.forall₂ h h'
    refine List.forall₂_iff_get.2 ⟨hrel'.length_eq, fun k hk hk' => ?_⟩
    have hregroups := hrel'.get hk hk'
    exact ⟨hregroups.name, value?_eq_of_regroups h h' hstands hrel hfits hfits' hkeeps hkeeps' hfair
      hparameters hparameters' (List.getElem?_eq_getElem hk) (List.getElem?_eq_getElem hk')
      hregroups⟩
  exact ⟨Parameters.pairs_eq_of_forall₂ alike, Parameters.get?_eq_of_forall₂ alike⟩

end

/-- **Groups inside of segments do not show.** -/
theorem compile_regroups (h : compile input = .ok template)
    (hstands : ∀ segment ∈ template.segments, segment.Stands) (hrel : Regroups input input') :
    ((∃ template', compile input' = .ok template') ∨
      ∃ error, compile input' = .error error ∧ error.cause = .tooLarge) ∧
    ∀ template', compile input' = .ok template' →
      (∀ text, template'.occursIn text = template.occursIn text) ∧
      (template.FitsTied → template'.FitsTied →
        (∀ text, (template'.parameters? text).isSome = (template.parameters? text).isSome) ∧
        (KeepsGroups template.segments →
          (∀ segment ∈ template'.segments, Regex.compile segment.body ≠ .error .tooLarge) →
          template.IsFair template' → ∀ text,
            (template'.parameters? text).map Parameters.pairs =
              (template.parameters? text).map Parameters.pairs ∧
            template'.params text = template.params text ∧
            ∀ name, template'.param? name text = template.param? name text)) := by
  refine ⟨compile_of_regroups h hstands hrel, fun template' h' =>
    ⟨occursIn_eq_of_regroups h h' hstands hrel, fun hfits hfits' => ?_⟩⟩
  have conform := isSome_parameters?_eq_of_regroups h h' hstands hrel hfits hfits'
  refine ⟨conform, fun hkeeps hsmall hfair text => ?_⟩
  have hkeeps' := keepsGroups_of_regroups h h' hstands hrel hkeeps hsmall
  have conform := conform text
  cases hparameters : template.parameters? text with
  | none =>
      rw [hparameters, Option.isSome_none, Option.isSome_eq_false_iff, Option.isNone_iff_eq_none]
        at conform
      simp only [params, param?, hparameters, conform, implies_true, and_self]
  | some parameters =>
      rw [hparameters, Option.isSome_some] at conform
      obtain ⟨parameters', hparameters'⟩ := Option.isSome_iff_exists.1 conform
      obtain ⟨pairs, get⟩ := pairs_eq_of_regroups h h' hstands hrel hfits hfits' hkeeps hkeeps'
        hfair hparameters hparameters'
      simp only [params, param?, hparameters, hparameters', Option.map_some, Option.bind_some,
        Parameters.toTable, pairs, get, implies_true, and_self]

/-! ### Templates whose pieces are known -/

namespace Segment.Regroups

variable {lost : Nat → Bool} {body pattern pattern' : List Char}

/-- A literal loses groups of its text. -/
theorem literal (h : Reader.Regroups lost {} pattern pattern') :
    (ofPiece 1 0 (.literal pattern)).Regroups (ofPiece 1 0 (.literal pattern')) := ⟨rfl, lost, h⟩

/-- A placeholder loses groups of its expression. -/
theorem placeholder (name : List Char) (hname : ',' ∉ name)
    (h : Reader.Regroups lost {} pattern pattern') :
    (ofPiece 1 0 (.placeholder (name ++ ',' :: pattern))).Regroups
      (ofPiece 1 0 (.placeholder (name ++ ',' :: pattern'))) := by
  simp only [ofPiece, splitBody_append hname]
  exact ⟨rfl, lost, h⟩

/-- A placeholder is left as it is. -/
theorem same (body : List Char) (hread : (feedAll {} (splitBody body).2).toOption.isSome) :
    (ofPiece 1 0 (.placeholder body)).Regroups (ofPiece 1 0 (.placeholder body)) := by
  obtain ⟨u, hu⟩ := Option.isSome_iff_exists.1 hread
  exact ⟨rfl, fun _ => false, .refl fits_start (eq_ok_of_toOption hu) fun _ _ _ => rfl⟩

end Segment.Regroups

/-- **Which groups are lost is seen on the pieces,** since numbers do not matter for it. -/
theorem regroups_of_cut {pieces pieces' : List Piece}
    (h : List.Forall₂ (fun piece piece' =>
      (Segment.ofPiece 1 0 piece).Regroups (Segment.ofPiece 1 0 piece')) pieces pieces')
    (hcut : Piece.cut input = pieces) (hcut' : Piece.cut input' = pieces') :
    Regroups input input' := by
  suffices ∀ next next' position, List.Forall₂ Segment.Regroups
      (Segment.ofPiecesFrom next position pieces) (Segment.ofPiecesFrom next' position pieces') by
    rw [Regroups, hcut, hcut']
    exact this 1 1 0
  clear hcut hcut'
  induction h with
  | nil => exact fun _ _ _ => .nil
  | @cons piece piece' _ _ hpiece _ ih =>
      refine fun next next' position => .cons ?_ (ih ..)
      cases piece <;> cases piece' <;> exact ⟨hpiece.name, hpiece.body⟩

/-- Without these groups the placeholders have other numbers, and the same values. -/
theorem compile_regroups_of_letters : ∃ template template',
    compile "(a){{n,(?:b|(c))*}}{{m}}".toList = .ok template ∧
    compile "(?:a){{n,(?:b|(?:c))*}}{{m}}".toList = .ok template' ∧
    (template'.parameters? "abcd".toList).map Parameters.pairs =
      (template.parameters? "abcd".toList).map Parameters.pairs := by
  obtain ⟨template, h, hplain, hfits, hkeeps, template', htemplate', hfits', hsmall, hfair⟩ :
      ∃ template, compile "(a){{n,(?:b|(c))*}}{{m}}".toList = .ok template ∧
        (∀ segment ∈ template.segments, segment.IsPlain) ∧
        (Regex.compile (anchored template.source)).toOption.isSome ∧
        (∀ segment ∈ template.segments, segment.width = segment.written) ∧
        ∃ template' ∈ (compile "(?:a){{n,(?:b|(?:c))*}}{{m}}".toList).toOption,
          (Regex.compile (anchored template'.source)).toOption.isSome ∧
          (∀ segment ∈ template'.segments, (Regex.compile segment.body).toOption.isSome) ∧
          template.IsFair template' :=
    exists_eq_ok (by decide +kernel)
  have h' := eq_ok_of_toOption htemplate'
  have hrel : Regroups "(a){{n,(?:b|(c))*}}{{m}}".toList "(?:a){{n,(?:b|(?:c))*}}{{m}}".toList :=
    regroups_of_cut
      (.cons (.literal (regroups_of_resting [] ")".toList rfl resting_start
        (by decide : 'a' ≠ '?') (by decide +kernel)))
      (.cons (.placeholder ['n'] (by decide) (regroups_of_resting "(?:b|".toList "))*".toList rfl
        ⟨rfl, rfl, rfl, rfl⟩ (by decide : 'c' ≠ '?') (by decide +kernel)))
      (.cons (.same ['m'] (by decide +kernel)) .nil)))
      (by decide +kernel) (by decide +kernel)
  obtain ⟨-, answers⟩ := ((compile_regroups h
    (fun segment hsegment => (hplain segment hsegment).stands) hrel).2 template'
      h').2 (ne_tooLarge_of_isSome hfits) (ne_tooLarge_of_isSome hfits')
  have answers := answers
    (fun _ _ _ _ earlier hearlier => hkeeps earlier (List.mem_of_mem_take hearlier))
    (fun segment hsegment => ne_tooLarge_of_isSome (hsmall segment hsegment)) hfair "abcd".toList
  exact ⟨template, template', h, h', answers.1⟩

/-- **Where groups show.**  Without the group in the first template, what both branches begin with
is taken out of them, and another way is preferred.  Without the group in the second one, a set
without characters is no longer seen, and the repetition is tried in another order.  Without the
group in the third one, the expression is too large. -/
theorem exists_shown_group :
    (Regroups "{{a,(.*)x|.*y}}{{b}}".toList "{{a,(?:.*)x|.*y}}{{b}}".toList ∧
      ∃ template, compile "{{a,(.*)x|.*y}}{{b}}".toList = .ok template ∧
        (∀ segment ∈ template.segments, segment.Stands) ∧
        ∃ template', compile "{{a,(?:.*)x|.*y}}{{b}}".toList = .ok template' ∧
          template.param? ['a'] "1x2y3".toList = some "1x".toList ∧
          template'.param? ['a'] "1x2y3".toList = some "1x2y".toList) ∧
    (Regroups "{{a,(?:(?:([a&&b])|[cd])*?)*}}{{b,[cd]?}}".toList
        "{{a,(?:(?:(?:[a&&b])|[cd])*?)*}}{{b,[cd]?}}".toList ∧
      ∃ template, compile "{{a,(?:(?:([a&&b])|[cd])*?)*}}{{b,[cd]?}}".toList = .ok template ∧
        (∀ segment ∈ template.segments, segment.Stands) ∧
        ∃ template', compile "{{a,(?:(?:(?:[a&&b])|[cd])*?)*}}{{b,[cd]?}}".toList = .ok template' ∧
          template.param? ['a'] "ccc".toList = some "ccc".toList ∧
          template'.param? ['a'] "ccc".toList = some "cc".toList) ∧
    (Regroups "(?:[q-z]|(a1|a2|a3|a4|a5|a6|a7|a8|a9)){15000}{{n}}".toList
        "(?:[q-z]|(?:a1|a2|a3|a4|a5|a6|a7|a8|a9)){15000}{{n}}".toList ∧
      ∃ template,
        compile "(?:[q-z]|(a1|a2|a3|a4|a5|a6|a7|a8|a9)){15000}{{n}}".toList = .ok template ∧
        (∀ segment ∈ template.segments, segment.Stands) ∧
        ∃ error,
          compile "(?:[q-z]|(?:a1|a2|a3|a4|a5|a6|a7|a8|a9)){15000}{{n}}".toList =
            .error error) := by
  refine ⟨⟨?_, ?_⟩, ⟨?_, ?_⟩, ?_, ?_⟩
  · exact regroups_of_cut
      (.cons (.placeholder ['a'] (by decide) (regroups_of_resting [] "*)x|.*y".toList rfl
        resting_start (by decide : '.' ≠ '?') (by decide +kernel)))
      (.cons (.same ['b'] (by decide +kernel)) .nil))
      (by decide +kernel) (by decide +kernel)
  · obtain ⟨template, h, hstands, template', h', hparams⟩ :
        ∃ template, compile "{{a,(.*)x|.*y}}{{b}}".toList = .ok template ∧
          (∀ segment ∈ template.segments, segment.Stands) ∧
          ∃ template' ∈ (compile "{{a,(?:.*)x|.*y}}{{b}}".toList).toOption,
            template.param? ['a'] "1x2y3".toList = some "1x".toList ∧
            template'.param? ['a'] "1x2y3".toList = some "1x2y".toList :=
      exists_eq_ok (by decide +kernel)
    exact ⟨template, h, hstands, template', eq_ok_of_toOption h', hparams⟩
  · exact regroups_of_cut
      (.cons (.placeholder ['a'] (by decide) (regroups_of_resting "(?:(?:".toList
        "a&&b])|[cd])*?)*".toList rfl ⟨rfl, rfl, rfl, rfl⟩ (by decide : '[' ≠ '?')
        (by decide +kernel)))
      (.cons (.same "b,[cd]?".toList (by decide +kernel)) .nil))
      (by decide +kernel) (by decide +kernel)
  · obtain ⟨template, h, hstands, template', h', hparams⟩ :
        ∃ template, compile "{{a,(?:(?:([a&&b])|[cd])*?)*}}{{b,[cd]?}}".toList = .ok template ∧
          (∀ segment ∈ template.segments, segment.Stands) ∧
          ∃ template' ∈
              (compile "{{a,(?:(?:(?:[a&&b])|[cd])*?)*}}{{b,[cd]?}}".toList).toOption,
            template.param? ['a'] "ccc".toList = some "ccc".toList ∧
            template'.param? ['a'] "ccc".toList = some "cc".toList :=
      exists_eq_ok (by decide +kernel)
    exact ⟨template, h, hstands, template', eq_ok_of_toOption h', hparams⟩
  · exact regroups_of_cut
      (.cons (.literal (regroups_of_resting "(?:[q-z]|".toList
        "1|a2|a3|a4|a5|a6|a7|a8|a9)){15000}".toList rfl ⟨rfl, rfl, rfl, rfl⟩
        (by decide : 'a' ≠ '?') (by decide +kernel)))
      (.cons (.same ['n'] (by decide +kernel)) .nil))
      (by decide +kernel) (by decide +kernel)
  · obtain ⟨template, h, hstands⟩ :
        ∃ template,
          compile "(?:[q-z]|(a1|a2|a3|a4|a5|a6|a7|a8|a9)){15000}{{n}}".toList = .ok template ∧
          ∀ segment ∈ template.segments, segment.Stands :=
      exists_eq_ok (by decide +kernel)
    obtain ⟨error, h', -⟩ :
        ∃ error, compile "(?:[q-z]|(?:a1|a2|a3|a4|a5|a6|a7|a8|a9)){15000}{{n}}".toList =
          .error error ∧ True :=
      exists_eq_error (by decide +kernel)
    exact ⟨template, h, hstands, error, h'⟩

end Template

end ParamTemplate
