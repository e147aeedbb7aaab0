/-
**Valid parts make a valid template.**

A template whose segments are accepted on their own is accepted, too, unless the expression that is
assembled from them exceeds a limit.  For this the segments must not set flags that reach beyond
them, and no name may be defined twice.  Both are conditions on the parts.

There is one more.  The parenthesis behind the expression of a placeholder is swallowed by a comment
at the end of that expression, and nothing is done about it.  (Between the two ends of the text the
same thing is taken care of.)  Without such a comment reading goes on behind each segment as if it
stood between two items, where blanks count, at a level that has a meaning.  This is the invariant.

Main definitions:

* `Template.Segment.IsValid` — what is asked of each segment;
* `Template.Segment.names` — the names that are defined in a segment;
* `Template.Segment.endsInComment` — there is a comment at the end of a segment.

Main results:

* `Template.exists_alone_of_segments` — **what is assembled can be read and has a meaning**;
* `Template.compile_of_isValid` — **the template is accepted, unless it exceeds a limit**;
* `Template.refused_of_comment` — a comment at the end of a placeholder can be the reason to refuse
  a template whose parts are valid.
-/

import ParamTemplate.Proofs.Regex.Reader.Steady
import ParamTemplate.Proofs.Template.Anchoring
import ParamTemplate.Proofs.Template.Assembling

set_option autoImplicit false

namespace ParamTemplate.Template

open Regex Regex.Reader

/-! ### Segments -/

namespace Segment

/-- **What is asked of a segment:** it is accepted on its own, and a literal sets no flags at its
top level. -/
structure IsValid (segment : Segment) : Prop where
  accepted : ∃ regex, Regex.compile segment.body = .ok regex
  directives : segment.isPlaceholder = false →
    ∀ p, Pattern.read segment.body = .ok p → p.directives = []

/-- **The names that are defined in a segment.** -/
def names (segment : Segment) : List (List Char) :=
  ((Pattern.read segment.body).toOption.map Pattern.names).getD []

/-- **Whether there is a comment at the end of a segment,** which goes on behind it. -/
def endsInComment (segment : Segment) : Bool := Reader.endsInComment segment.body

instance (segment : Segment) : Decidable segment.IsValid :=
  decidable_of_iff ((Regex.compile segment.body).toOption.isSome ∧
    (segment.isPlaceholder = false →
      ∀ p ∈ (Pattern.read segment.body).toOption, p.directives = []))
    ⟨fun ⟨haccepted, h⟩ => {
      accepted := (Option.isSome_iff_exists.1 haccepted).imp fun _ => eq_ok_of_toOption
      directives := fun hliteral p hp => h hliteral p (by rw [hp]; rfl) },
    fun h => ⟨by obtain ⟨regex, hregex⟩ := h.accepted; rw [hregex]; rfl,
      fun hliteral p hp => h.directives hliteral p (eq_ok_of_toOption hp)⟩⟩

variable {segment : Segment}

/-- What is known of a valid segment, if no comment goes on behind it. -/
theorem IsValid.exists_alone (h : segment.IsValid)
    (hcomment : segment.isPlaceholder → segment.endsInComment = false) :
    ∃ u p e flags, Alone segment.body u p ∧ p.meaning {} = .ok (e, flags) ∧ u.comment = false ∧
      (segment.isPlaceholder = false → u.verbose = false ∧ p.directives = []) ∧
        ∀ name, name ∈ u.names.map Prod.fst ↔ name ∈ segment.names := by
  obtain ⟨regex, hregex⟩ := h.accepted
  obtain ⟨u, p, haccepted⟩ := exists_accepted hregex
  have hu := haccepted.alone
  obtain ⟨flags, hmeaning⟩ := haccepted.meaning
  have literal : segment.isPlaceholder = false → u.verbose = false ∧ p.directives = [] := by
    intro hliteral
    have hd := h.directives hliteral p haccepted.read
    exact ⟨hu.verbose fun items hitems => (List.not_mem_nil (hd ▸ hitems)).elim, hd⟩
  have comment : u.comment = false := by
    cases hplaceholder : segment.isPlaceholder with
    -- Where blanks count there are no comments.
    | false => exact hu.comment (literal hplaceholder).1
    | true =>
        rw [← hu.endsInComment]
        exact hcomment hplaceholder
  refine ⟨u, p, regex.expr, flags, hu, hmeaning, comment, literal, fun name => ?_⟩
  rw [hu.names, List.mem_reverse, names, haccepted.read]
  rfl

end Segment

/-! ### Reading segments -/

variable {s s' t : Reader} {segment : Segment} {segments : List Segment}

/-- A segment that takes other names than those before it can be read behind them. -/
theorem exists_feedAll_segment {u : Reader} {p : Pattern} (h : s.Ready t)
    (ha : Alone segment.body u p) (hcomment : u.comment = false)
    (hnames : ∀ name ∈ u.names.map Prod.fst, name ∉ t.names.map Prod.fst) :
    ∃ s', s.feedAll segment.source = .ok s' := by
  unfold Segment.source
  split
  · exact h.exists_feedAll_group ha hcomment hnames
  · exact h.exists_feedAll ha hnames

/-- The level is steady behind a valid segment, too. -/
theorem isSteady_of_segment {u : Reader} {p : Pattern} {e : Expr} {flags : Flags}
    {groups stop : Nat} {f g : Frame} {level : Level} (ha : Alone segment.body u p)
    (hmeaning : p.meaning {} = .ok (e, flags))
    (hd : segment.isPlaceholder = false → p.directives = []) (h : level.IsSteady) :
    (if segment.isPlaceholder then
      level.push (.group ⟨f.offset, stop⟩ (.numbered groups) (p.relabel g.relabelling))
    else level.join (u.settled.level.moved f)).IsSteady := by
  split
  · exact h.push (Pattern.isSteady_group
      ((Pattern.meaning_relabel_eq_ok g.number_injective).2 ⟨e, hmeaning, rfl⟩) ..)
  next hliteral =>
    have hd := hd (by simpa using hliteral)
    rw [← ha.close] at hmeaning hd
    exact h.join ((Level.isSteady_of_close hd hmeaning).moved f)

/-- **Valid segments can be read one after the other,** and the level stays steady. -/
theorem exists_ready_of_isValid (hvalid : ∀ segment ∈ segments, segment.IsValid)
    (hcomment : ∀ segment ∈ segments, segment.isPlaceholder → segment.endsInComment = false)
    (hnodup : (segments.flatMap Segment.names).Nodup) (h : s.Ready t)
    (hnames : ∀ name ∈ segments.flatMap Segment.names, name ∉ t.names.map Prod.fst)
    (hsteady : t.level.IsSteady) :
    ∃ s' t', s.feedAll (assemble segments) = .ok s' ∧ s'.Ready t' ∧ t'.stack = t.stack ∧
      t'.level.IsSteady := by
  induction segments generalizing s t with
  | nil => exact ⟨s, t, rfl, h, rfl, hsteady⟩
  | cons segment segments ih =>
      obtain ⟨hsegment, hsegments⟩ := List.forall_mem_cons.1 hvalid
      obtain ⟨hcomment, hcomments⟩ := List.forall_mem_cons.1 hcomment
      rw [List.flatMap_cons] at hnodup hnames
      obtain ⟨-, hnodup, hdisjoint⟩ := List.nodup_append.1 hnodup
      obtain ⟨u, p, e, flags, hu, hmeaning, hend, hliteral, hmem⟩ := hsegment.exists_alone hcomment
      obtain ⟨v, hv⟩ := exists_feedAll_segment h hu hend fun name hname =>
        hnames name (List.mem_append_left _ ((hmem name).1 hname))
      obtain ⟨w, hw, -, -, hstack, hnames', hlevel⟩ :=
        ready_of_segment h hu hend (fun h => (hliteral h).1) hv
      have steady : w.level.IsSteady :=
        hlevel ▸ isSteady_of_segment (f := t.frame) hu hmeaning (fun h => (hliteral h).2) hsteady
      -- No name of a later segment is taken by this segment or by those before it.
      have later : ∀ name ∈ segments.flatMap Segment.names, name ∉ w.names.map Prod.fst := by
        intro name hname htaken
        rw [hnames'] at htaken
        rcases List.mem_append.1 htaken with htaken | htaken
        · exact hdisjoint name ((hmem name).1 htaken) name hname rfl
        · exact hnames name (List.mem_append_right _ hname) htaken
      obtain ⟨s', t', hs', ht', hstack', hsteady'⟩ :=
        ih hsegments hcomments hnodup hw later steady
      refine ⟨s', t', ?_, ht', hstack'.trans hstack, hsteady'⟩
      rw [assemble_cons, feedAll_append]
      exact bind_eq_ok.2 ⟨v, hv, hs'⟩

/-- **What is assembled from valid segments can be read and has a meaning.** -/
theorem exists_alone_of_segments (hvalid : ∀ segment ∈ segments, segment.IsValid)
    (hcomment : ∀ segment ∈ segments, segment.isPlaceholder → segment.endsInComment = false)
    (hnodup : (segments.flatMap Segment.names).Nodup) :
    ∃ s p e, Alone (assemble segments) s p ∧ s.comment = false ∧ p.meaning {} = .ok (e, {}) := by
  obtain ⟨s, t, hs, ht, hstack, hsteady⟩ := exists_ready_of_isValid hvalid hcomment hnodup
    resting_start.ready (fun _ _ => List.not_mem_nil) (Level.isSteady_opened 0)
  obtain ⟨e, he⟩ := hsteady.close t.pos
  refine ⟨s, _, e, ⟨hs, ?_⟩, ?_, he⟩
  · rw [ht.finish, finish_of_main ht.resting.mode, finishLevel, hstack]
  · rw [← comment_settled, ht.settled, ht.resting.comment]

/-! ### Accepting templates -/

variable {input : List Char}

/-- An expression that is accepted on its own is not complained about. -/
theorem Segment.error?_of_compile {pieces : List Piece} {regex : Regex}
    (hsegment : segment ∈ Segment.ofPieces pieces) (h : Regex.compile segment.body = .ok regex) :
    segment.error? = none := by
  have count : segment.groupCount? = some regex.groupCount := by
    rw [Segment.groupCount?_of_mem hsegment, Regex.groupCount?, h]
    rfl
  rw [Segment.error?, count]
  cases segment.name? <;> rfl

/-- A template is built if all of its segments are accepted on their own. -/
theorem compile_eq_build
    (h : ∀ segment ∈ Segment.ofPieces (Piece.cut input), ∃ regex,
      Regex.compile segment.body = .ok regex) :
    compile input = build input (Segment.ofPieces (Piece.cut input)) := by
  have accepted : (Segment.ofPieces (Piece.cut input)).findSome? Segment.error? = none := by
    refine List.findSome?_eq_none_iff.2 fun segment hsegment => ?_
    obtain ⟨regex, hregex⟩ := h segment hsegment
    exact Segment.error?_of_compile hsegment hregex
  unfold compile
  dsimp only
  rw [accepted]

/-- **What is assembled is accepted in both forms, unless it exceeds a limit,** if it has a meaning
and no comment at its end. -/
theorem build_of_alone {p : Pattern} {e : Expr} {flags : Flags} (h : Alone (assemble segments) s p)
    (hcomment : s.comment = false) (he : p.meaning {} = .ok (e, flags)) :
    (∃ template, build input segments = .ok template) ∨
      ∃ cause, build input segments = .error (.build (assemble segments) cause) ∧
        cause.IsLimit := by
  unfold build
  dsimp only
  rcases compile_of_alone h he with ⟨search, hsearch, -⟩ | ⟨cause, hsearch, hlimit⟩
  · rw [hsearch]
    dsimp only
    cases hwhole : compileWhole (assemble segments) with
    | ok whole => exact .inl ⟨_, rfl⟩
    | error cause => exact .inr ⟨cause, rfl, isLimit_of_refused h hcomment he hwhole⟩
  · rw [hsearch]
    exact .inr ⟨cause, rfl, hlimit⟩

/-- **A template with valid parts is accepted, unless the assembled expression exceeds a limit.**
No name may be defined twice in all of its segments, and no comment may go on behind a placeholder.
-/
theorem compile_of_isValid
    (hvalid : ∀ segment ∈ Segment.ofPieces (Piece.cut input), segment.IsValid)
    (hnodup : ((Segment.ofPieces (Piece.cut input)).flatMap Segment.names).Nodup)
    (hcomment : ∀ segment ∈ Segment.ofPieces (Piece.cut input),
      segment.isPlaceholder → segment.endsInComment = false) :
    (∃ template, compile input = .ok template) ∨ ∃ cause,
      compile input = .error (.build (assemble (Segment.ofPieces (Piece.cut input))) cause) ∧
        cause.IsLimit := by
  obtain ⟨s, p, e, hs, hend, he⟩ := exists_alone_of_segments hvalid hcomment hnodup
  rw [compile_eq_build fun segment hsegment => (hvalid segment hsegment).accepted]
  exact build_of_alone hs hend he

/-- A template with a choice, a named group and a flag that is set inside of a placeholder. -/
theorem compile_of_isValid_of_name :
    (∀ segment ∈ Segment.ofPieces (Piece.cut "a|(?P<_>b)\x7b\x7bn,(?x) c\x7d\x7d".toList),
      segment.IsValid) ∧
    ((∃ template, compile "a|(?P<_>b)\x7b\x7bn,(?x) c\x7d\x7d".toList = .ok template) ∨
      ∃ cause, compile "a|(?P<_>b)\x7b\x7bn,(?x) c\x7d\x7d".toList =
        .error (.build (assemble (Segment.ofPieces
          (Piece.cut "a|(?P<_>b)\x7b\x7bn,(?x) c\x7d\x7d".toList))) cause) ∧ cause.IsLimit) :=
  have hvalid : ∀ segment ∈ Segment.ofPieces
      (Piece.cut "a|(?P<_>b)\x7b\x7bn,(?x) c\x7d\x7d".toList), segment.IsValid := by decide +kernel
  ⟨hvalid, compile_of_isValid hvalid (by decide +kernel) (by decide +kernel)⟩

/-- **A comment at the end of a placeholder** swallows the parenthesis behind it: the parts are
valid, and the template is refused, but not for a limit. -/
theorem refused_of_comment :
    (∀ segment ∈ Segment.ofPieces (Piece.cut "\x7b\x7bn,(?x)a#\x7d\x7d".toList), segment.IsValid) ∧
    ((Segment.ofPieces (Piece.cut "\x7b\x7bn,(?x)a#\x7d\x7d".toList)).flatMap Segment.names).Nodup ∧
    ∃ error, compile "\x7b\x7bn,(?x)a#\x7d\x7d".toList = .error error ∧
      error.cause.fault? = some .groupUnclosed ∧ ¬error.cause.IsLimit :=
  ⟨by decide +kernel, by decide +kernel, exists_eq_error (by decide +kernel)⟩

end ParamTemplate.Template
