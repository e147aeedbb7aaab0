/-
**The form that is tied to both ends of the text.**

To conform, all of a text has to match; for that the assembled expression is put in a group between
an assertion for the start of the text and one for its end.  The group keeps together what is in it,
whatever that is, with one exception: a comment at the end of the expression reaches over the
bracket behind it, so that the group is never closed.  Then the expression with a line feed behind
it is put in the group.

The line feed is passed over by an expression that ignores blanks.  But the second form is also
tried when the first one is refused for another reason, and then it may be accepted with the line
feed as one more character to match.  The reason can only be the size.

Main definitions:

* `Template.wrapper` — what is read before the expression;
* `Template.tie` — a written expression, tied to both ends;
* `Template.Forms` — how the two forms of an accepted expression are related;
* `Template.FitsTied` — the form without a line feed is not too large.

Main results:

* `Template.alone_anchored`, `Template.not_alone_anchored` — **what comes of a text between the two
  ends**, with and without a comment at its end;
* `Template.exists_forms` — **the two forms of an accepted expression are related**;
* `Template.whole_eq_of_fitsTied` — the form that is compared with all of a text.
-/

import ParamTemplate.Proofs.Regex.Limits
import ParamTemplate.Proofs.Regex.Reader.LineFeed
import ParamTemplate.Proofs.Regex.Searching
import ParamTemplate.Template

set_option autoImplicit false

namespace ParamTemplate.Template

open Regex Regex.Reader

/-! ### Between the ends -/

/-- **What is read before an expression that is tied to both ends:** an assertion, and the opening
of a group without a number. -/
def wrapper : Frame where
  offset := 5
  groups := 0
  names := []
  level := .opened 5
  stack := [{
    outer := ⟨0, [.assertion ⟨0, 2⟩ .textStart], []⟩
    span := ⟨2, 3⟩
    kind := .plain []
    verbose := false }]

/-- **A written expression, tied to both ends;** `length` is the length of what was written. -/
def tie (p : Pattern) (length : Nat) : Pattern :=
  .sequence ⟨0, 5 + length + 3⟩
    [.assertion ⟨0, 2⟩ .textStart,
      .group ⟨2, 5 + length + 1⟩ (.plain []) (p.relabel wrapper.relabelling),
      .assertion ⟨5 + length + 1, 5 + length + 3⟩ .textEnd]

variable {text source : List Char} {s : Reader} {p q : Pattern}

theorem feedAll_wrapper : feedAll {} "\\A(?:".toList = .ok (({} : Reader).on wrapper) := rfl

theorem feedAll_anchored (h : Alone text s p) :
    feedAll {} (anchored text) = (s.on wrapper).feedAll [')', '\\', 'z'] := by
  have inside : (({} : Reader).on wrapper).feedAll text = .ok (s.on wrapper) :=
    (feedAll_on fits_start h.feed).eq_of_names rfl
  calc feedAll {} (anchored text)
    _ = feedAll {} ("\\A(?:".toList ++ text) >>= (·.feedAll ")\\z".toList) := feedAll_append ..
    _ = (feedAll {} "\\A(?:".toList >>= (·.feedAll text)) >>= (·.feedAll ")\\z".toList) := by
        rw [feedAll_append]
    _ = (({} : Reader).on wrapper).feedAll text >>= (·.feedAll ")\\z".toList) := by
        rw [feedAll_wrapper]
        rfl
    _ = (s.on wrapper).feedAll [')', '\\', 'z'] := by
        rw [inside]
        rfl

theorem feedAll_textEnd {t : Reader} (h : t.Resting) : t.feedAll ['\\', 'z'] =
    .ok ({ t with pos := t.pos + 2 }.push (.assertion ⟨t.pos, t.pos + 2⟩ .textEnd)) := by
  obtain ⟨pos, verbose, comment, groups, names, level, stack, brackets, mode⟩ := t
  obtain ⟨hmode, hverbose, hcomment, hbrackets⟩ := h
  dsimp only at hmode hverbose hcomment hbrackets
  subst hmode hverbose hcomment hbrackets
  rfl

/-- **A text between the two ends,** unless there is a comment at its end: it is read as the body of
the group. -/
theorem alone_anchored (h : Alone text s p) (hcomment : s.comment = false) :
    ∃ t, Alone (anchored text) t (tie p text.length) := by
  have closed := h.close_on hcomment (f := wrapper) rfl rfl
  have feed := feedAll_anchored h
  rw [feedAll_cons, closed] at feed
  refine ⟨_, feed.trans (feedAll_textEnd ⟨rfl, rfl, hcomment, ?_⟩), ?_⟩
  · exact (congrArg _ h.done.brackets).trans rfl
  · refine (finish_of_main rfl).trans ?_
    rw [h.pos]
    rfl

/-- **A comment at the end of a text** swallows the rest, and the group is never closed. -/
theorem finish_anchored_of_comment (h : Alone text s p) (hcomment : s.comment = true) :
    ∃ t complaint, feedAll {} (anchored text) = .ok t ∧ t.finish = .error complaint ∧
      complaint.fault = .groupUnclosed := by
  obtain ⟨t, hfeed, hfinish⟩ := h.finish_on_of_comment hcomment
    (show wrapper.stack = _ :: [] from rfl) (show '\n' ∉ [')', '\\', 'z'] by decide)
  exact ⟨t, _, (feedAll_anchored h).trans hfeed, hfinish, rfl⟩

theorem not_alone_anchored (h : Alone text s p) (hcomment : s.comment = true) {t : Reader} :
    ¬Alone (anchored text) t q := by
  intro ha
  obtain ⟨t', complaint, hfeed, hfinish, -⟩ := finish_anchored_of_comment h hcomment
  cases ha.feed.symm.trans hfeed
  cases ha.finish.symm.trans hfinish

/-! ### What the two forms mean -/

theorem number_wrapper : wrapper.relabelling.number = id := funext fun n => Nat.zero_add n

/-- **The meaning of a tied expression** is its meaning, tied to both ends. -/
theorem meaning_tie {e : Expr} {flags : Flags} (h : p.meaning {} = .ok (e, flags)) (length : Nat) :
    (tie p length).meaning {} = .ok (e.tied, {}) := by
  have inside : (p.relabel wrapper.relabelling).meaning {} = .ok (e, flags) :=
    (Pattern.meaning_relabel_eq_ok wrapper.number_injective).2
      ⟨e, h, by rw [number_wrapper, Expr.renumber_id]⟩
  have rest : Pattern.meanings {} [.group ⟨2, 5 + length + 1⟩ (.plain [])
      (p.relabel wrapper.relabelling), .assertion ⟨5 + length + 1, 5 + length + 3⟩ .textEnd] =
      .ok ([e, .look .textEnd], {}) :=
    bind_eq_ok.2 ⟨(e, {}), bind_eq_ok.2 ⟨(e, flags), inside, rfl⟩, rfl⟩
  exact bind_eq_ok.2 ⟨([.look .textStart, e, .look .textEnd], {}),
    bind_eq_ok.2 ⟨(.look .textStart, {}), rfl, bind_eq_ok.2 ⟨_, rest, rfl⟩⟩, rfl⟩

/-- A tied expression has a meaning only if the expression has one. -/
theorem meaning_of_tie {e : Expr} {flags : Flags} {length : Nat}
    (h : (tie p length).meaning {} = .ok (e, flags)) :
    ∃ inner flags', p.meaning {} = .ok (inner, flags') ∧ e = inner.tied := by
  obtain ⟨⟨es, _⟩, hes, h⟩ := bind_eq_ok.1 h
  cases h
  obtain ⟨_, hstart, hes⟩ := bind_eq_ok.1 hes
  cases hstart
  obtain ⟨⟨rest, _⟩, hrest, hes⟩ := bind_eq_ok.1 hes
  cases hes
  obtain ⟨⟨body, _⟩, hbody, hrest⟩ := bind_eq_ok.1 hrest
  cases hrest
  obtain ⟨⟨inside, flags'⟩, hinside, hbody⟩ := bind_eq_ok.1 hbody
  cases hbody
  obtain ⟨inner, hinner, rfl⟩ := (Pattern.meaning_relabel_eq_ok wrapper.number_injective).1 hinside
  rw [number_wrapper, Expr.renumber_id]
  exact ⟨inner, flags', hinner, rfl⟩

/-- **An expression with a meaning is accepted between the two ends,** unless it exceeds a limit or
there is a comment at its end. -/
theorem compile_anchored {e : Expr} {flags : Flags} (h : Alone source s p)
    (hcomment : s.comment = false) (he : p.meaning {} = .ok (e, flags)) :
    (∃ regex, Regex.compile (anchored source) = .ok regex ∧ regex.expr = e.tied) ∨
      ∃ cause, Regex.compile (anchored source) = .error cause ∧ cause.IsLimit := by
  obtain ⟨t, ht⟩ := alone_anchored h hcomment
  exact compile_of_alone ht (meaning_tie he source.length)

/-- What is refused between the two ends with no comment at its end exceeds a limit.  The second
form does not matter, because the complaint is about the first one. -/
theorem isLimit_of_refused {e : Expr} {flags : Flags} {cause : Regex.Error} (h : Alone source s p)
    (hcomment : s.comment = false) (he : p.meaning {} = .ok (e, flags))
    (hwhole : compileWhole source = .error cause) : cause.IsLimit := by
  rcases compile_anchored h hcomment he with ⟨regex, hregex, -⟩ | ⟨limit, hlimit, hcause⟩
  · rw [compileWhole, hregex] at hwhole
    cases hwhole
  · rw [compileWhole, hlimit] at hwhole
    dsimp only at hwhole
    split at hwhole
    · cases hwhole
    · cases hwhole
      exact hcause

/-- **A comment at the end of an expression** leaves the group between the two ends unclosed. -/
theorem compile_anchored_of_comment (h : Alone source s p) (hcomment : s.comment = true) :
    ∃ cause, Regex.compile (anchored source) = .error cause ∧
      cause.fault? = some .groupUnclosed := by
  obtain ⟨t, complaint, hfeed, hfinish, hfault⟩ := finish_anchored_of_comment h hcomment
  have pattern : Pattern.read (anchored source) = .error complaint := by
    unfold Pattern.read
    rw [hfeed]
    change (t.finish >>= _) = _
    rw [hfinish]
    rfl
  exact ⟨_, compile_of_error (Expr.read_of_error pattern), congrArg some hfault⟩

/-- The groups of a tied expression keep their numbers; their places move by five characters. -/
theorem groupMarks_tie (p : Pattern) (length : Nat) :
    (tie p length).groupMarks = p.groupMarks.map fun mark => (5 + mark.1, mark.2) := by
  have inside : (p.relabel wrapper.relabelling).groupMarks =
      p.groupMarks.map fun mark => (5 + mark.1, 0 + mark.2) :=
    Pattern.groupMarks_relabel (fun _ => rfl) p
  simp only [Nat.zero_add] at inside
  rw [← inside]
  simp [tie, Pattern.groupMarks, Pattern.allGroupMarks, GroupKind.marks]

theorem isSome_tooDeep?_tie (p : Pattern) (length : Nat) :
    ((tie p length).tooDeep? 0).isSome = (p.tooDeep? 2).isSome := by
  rw [← Pattern.isSome_tooDeep?_relabel wrapper.relabelling 2 p]
  simp [tie, Pattern.tooDeep?, Pattern.anyTooDeep?, nestLimit]

/-- **How the two forms of an accepted expression are related.**  Between the ends stands an
expression with the same groups.  It is the one that is looked for, or that one with a line feed
behind it; the latter only if the former is too large between the ends. -/
structure Forms (source : List Char) (search whole : Regex) (s : Reader) (p q : Pattern)
    (e : Expr) : Prop where
  alone : Alone source s p
  meaning : ∃ flags, p.meaning {} = .ok (search.expr, flags)
  read : ∃ length, Pattern.read whole.source = .ok (tie q length)
  inside : ∃ flags, q.meaning {} = .ok (e, flags)
  expr : whole.expr = e.tied
  groupMarks : q.groupMarks = p.groupMarks
  groupNames : q.groupNames = p.groupNames
  cases : e = search.expr ∨ (s.verbose = false ∧ search.expr.tied.isTooLarge ∧
    Regex.compile (anchored source) = .error .tooLarge ∧
    q = (s.settled.level.push (lineFeed s.pos)).close (s.pos + 1))

/-- What is between the ends is known from how it is read on its own. -/
theorem between_of_compile {whole : Regex} (h : Alone source s p) (hcomment : s.comment = false)
    (hcompile : Regex.compile (anchored source) = .ok whole) :
    Pattern.read whole.source = .ok (tie p source.length) ∧
      ∃ e flags, p.meaning {} = .ok (e, flags) ∧ whole.expr = e.tied := by
  obtain ⟨t, ht⟩ := alone_anchored h hcomment
  have accepted := ht.accepted hcompile
  obtain ⟨flags, hmeaning⟩ := accepted.meaning
  exact ⟨(source_of_compile hcompile).symm ▸ accepted.read, meaning_of_tie hmeaning⟩

/-- A line feed behind an expression adds no group. -/
theorem gather_lineFeed {α : Type} {g : Pattern → List α} (hg : Gathers g) (h : Alone source s p)
    (hlineFeed : g (lineFeed s.pos) = []) :
    g ((s.settled.level.push (lineFeed s.pos)).close (s.pos + 1)) = g p := by
  rw [← h.close, Level.gather_close hg, Level.gather_close hg, Level.gather_push, hlineFeed,
    List.append_nil]

/-- An expression with a line feed behind it is accepted between the ends, and not without: then it
is too large without. -/
theorem tooLarge_of_lineFeed {search whole : Regex} {cause : Regex.Error} {flags : Flags}
    (h : Alone source s p) (hverbose : s.verbose = false)
    (hmeaning : p.meaning {} = .ok (search.expr, flags))
    (hfirst : Regex.compile (anchored source) = .error cause)
    (hread : Pattern.read whole.source = .ok
      (tie ((s.settled.level.push (lineFeed s.pos)).close (s.pos + 1)) (source ++ ['\n']).length)) :
    search.expr.tied.isTooLarge ∧ Regex.compile (anchored source) = .error .tooLarge := by
  obtain ⟨v, hv⟩ := alone_anchored h (h.comment hverbose)
  have hdeep : (tie p source.length).tooDeep? 0 = none := by
    have : ((tie p source.length).tooDeep? 0).isSome → False := by
      intro hdeep
      rw [isSome_tooDeep?_tie, ← h.close] at hdeep
      -- With a further item the expression is not less deep.
      have := Level.isSome_tooDeep?_push _ (lineFeed s.pos) _ (s.pos + 1) 2 hdeep
      rw [← isSome_tooDeep?_tie _ (source ++ ['\n']).length, (exists_alone hread).2] at this
      cases this
    simpa using this
  rcases compile_of_read (hv.read hdeep) (meaning_tie hmeaning _) with ⟨regex, hregex, -⟩ | hlarge
  · cases hfirst.symm.trans hregex
  · exact hlarge

/-- **The two forms of an accepted expression** are related. -/
theorem exists_forms {search whole : Regex} (hsearch : Regex.compile source = .ok search)
    (hwhole : compileWhole source = .ok whole) :
    ∃ s p q e, Forms source search whole s p q e := by
  obtain ⟨s, p, accepted⟩ := exists_accepted hsearch
  have hs := accepted.alone
  obtain ⟨flags, hmeaning⟩ := accepted.meaning
  unfold compileWhole at hwhole
  split at hwhole
  next regex hfirst =>
    cases hwhole
    -- With a comment at its end the group would not be closed.
    have hcomment : s.comment = false := by
      by_contra hcomment
      obtain ⟨t, q, ht⟩ := exists_accepted hfirst
      exact not_alone_anchored hs (by simpa using hcomment) ht.alone
    obtain ⟨hread, e, flags', he, hexpr⟩ := between_of_compile hs hcomment hfirst
    cases hmeaning.symm.trans he
    exact ⟨s, p, p, search.expr, hs, accepted.meaning, ⟨_, hread⟩, accepted.meaning, hexpr, rfl,
      rfl, .inl rfl⟩
  next cause hfirst =>
    split at hwhole
    next regex hsecond =>
      cases hwhole
      obtain ⟨t, q, hq, hcomment, hcases⟩ := exists_alone_lineFeed hs
      obtain ⟨hread, e, flags', he, hexpr⟩ := between_of_compile hq hcomment hsecond
      refine ⟨s, p, q, e, ?_⟩
      -- The line feed is passed over, or it is a further item.
      rcases hcases with ⟨-, hcongruent⟩ | ⟨hverbose, rfl⟩
      · cases (hcongruent.meaning he).symm.trans hmeaning
        exact ⟨hs, accepted.meaning, ⟨_, hread⟩, ⟨_, he⟩, hexpr, hcongruent.groupMarks,
          hcongruent.groupNames, .inl rfl⟩
      · obtain ⟨hlarge, hfirst⟩ := tooLarge_of_lineFeed hs hverbose hmeaning hfirst hread
        exact ⟨hs, accepted.meaning, ⟨_, hread⟩, ⟨flags', he⟩, hexpr,
          gather_lineFeed gathers_groupMarks hs rfl, gather_lineFeed gathers_groupNames hs rfl,
          .inr ⟨hverbose, hlarge, hfirst, rfl⟩⟩
    · cases hwhole

/-- Unless the form without the line feed is too large, the expression that is looked for stands
between the ends. -/
theorem Forms.tied {search whole : Regex} {e : Expr} (forms : Forms source search whole s p q e)
    (hsize : Regex.compile (anchored source) ≠ .error .tooLarge) :
    whole.expr = search.expr.tied := by
  rcases forms.cases with rfl | ⟨-, -, hlarge, -⟩
  · exact forms.expr
  · exact absurd hlarge hsize

/-! ### Texts -/

variable {input : List Char} {template : Template} {whole : Regex}

/-- **What is known of an accepted template:** both forms of the assembled expression are accepted,
and so is the expression of each placeholder. -/
theorem accepted_of_compile (h : compile input = .ok template) :
    Regex.compile template.source = .ok template.search ∧
      compileWhole template.source = .ok template.whole ∧
      template.segments = Segment.ofPieces (Piece.cut input) ∧
      ∀ segment ∈ template.segments, segment.error? = none := by
  unfold compile at h
  dsimp only at h
  split at h
  · cases h
  next hplaceholders =>
    unfold build at h
    dsimp only at h
    split at h
    · cases h
    next search hsearch =>
      split at h
      · cases h
      next whole hwhole =>
        cases h
        exact ⟨hsearch, hwhole, rfl, List.findSome?_eq_none_iff.1 hplaceholders⟩

theorem ne_tooLarge_of_isSome (h : (Regex.compile source).toOption.isSome) :
    Regex.compile source ≠ .error .tooLarge := by
  intro hlarge
  rw [hlarge] at h
  cases h

/-- **Whether the expression of a template, tied to both ends of the text, is not too large,** so
that no line feed is put behind it. -/
def FitsTied (template : Template) : Prop :=
  Regex.compile (anchored template.source) ≠ .error .tooLarge

theorem whole_eq_of_fitsTied (h : compile input = .ok template) (hfits : template.FitsTied) :
    template.whole.expr = template.search.expr.tied := by
  obtain ⟨hsearch, hwhole, -⟩ := accepted_of_compile h
  obtain ⟨s, p, q, e, forms⟩ := exists_forms hsearch hwhole
  exact forms.tied hfits

theorem exists_compile_of_whole (h : compileWhole source = .ok whole) :
    ∃ form, Regex.compile form = .ok whole := by
  unfold compileWhole at h
  split at h
  next regex hfirst =>
    cases h
    exact ⟨_, hfirst⟩
  · split at h
    next regex hsecond =>
      cases h
      exact ⟨_, hsecond⟩
    · cases h

theorem program_of_compileWhole (h : compileWhole source = .ok whole) :
    whole.program = whole.expr.program := by
  obtain ⟨form, hform⟩ := exists_compile_of_whole h
  exact program_of_compile hform

/-- A template occurs where its expression matches. -/
theorem occursIn_iff (h : compile input = .ok template) (text : List Char) :
    template.occursIn text ↔ ∃ i j, i ≤ text.length ∧ template.search.expr.Matches text i j := by
  rw [occursIn, isMatch, captures?, Option.isSome_map,
    program_of_compile (accepted_of_compile h).1, Expr.isSome_search_iff]

/-- **A tied expression matches a text if the expression matches all of it.** -/
theorem isMatch_iff_of_tied {e : Expr} (h : compileWhole source = .ok whole)
    (he : whole.expr = e.tied) (text : List Char) :
    whole.isMatch text ↔ e.Matches text 0 text.length := by
  rw [isMatch, captures?, Option.isSome_map, program_of_compileWhole h, he,
    Expr.isSome_search_iff]
  constructor
  · rintro ⟨i, j, hi, saves, hrun⟩
    exact ⟨saves, ((Expr.run_tied hi).1 hrun).2.2⟩
  · rintro ⟨saves, hrun⟩
    exact ⟨0, text.length, Nat.zero_le _, saves, (Expr.run_tied (Nat.zero_le _)).2 ⟨rfl, rfl, hrun⟩⟩

/-- **A text conforms if the tied expression matches all of it.** -/
theorem isSome_parameters?_iff (h : compile input = .ok template) {e : Expr}
    (he : template.whole.expr = e.tied) (text : List Char) :
    (template.parameters? text).isSome ↔ e.Matches text 0 text.length := by
  rw [parameters?, Option.isSome_map]
  exact isMatch_iff_of_tied (accepted_of_compile h).2.1 he text

/-- What is told about a text comes from the search for the tied expression. -/
theorem exists_search_of_parameters? (h : compile input = .ok template) {parameters : Parameters}
    (hparameters : template.parameters? text = some parameters) :
    ∃ slots, template.whole.expr.program.search text = some slots ∧
      parameters = { segments := template.segments, captures := { text, slots } } := by
  obtain ⟨captures, hcaptures, rfl⟩ := Option.map_eq_some_iff.1 hparameters
  obtain ⟨slots, hslots, rfl⟩ := Option.map_eq_some_iff.1 hcaptures
  rw [program_of_compileWhole (accepted_of_compile h).2.1] at hslots
  exact ⟨slots, hslots, rfl⟩

end ParamTemplate.Template
