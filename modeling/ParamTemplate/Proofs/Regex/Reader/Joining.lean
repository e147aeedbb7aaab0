/-
**Expressions one after the other.**

A text that is an expression on its own is read in the same way behind other expressions, as long as
the reader stands between two items there and blanks count.  Its items come to the sequence at hand,
with other places and other numbers.  Behind a parenthesis it becomes the body of a group.

Main definitions:

* `Regex.Reader.Alone` — a text is an expression on its own;
* `Regex.Reader.frame` — all that was read up to a state, as a frame;
* `Regex.Reader.Ready` — reading can go on behind a state as if it stood between two items.

Main results:

* `Regex.Reader.Alone.numbers`, `Regex.Reader.Alone.places` — **the groups of an expression are
  numbered in the order of their places**;
* `Regex.Reader.Ready.join` — an expression behind others;
* `Regex.Reader.Ready.group` — an expression in a group;
* `Regex.Reader.Ready.exists_feedAll`, `Regex.Reader.Ready.exists_feedAll_group` — **both can be
  read if they take other names.**
-/

import ParamTemplate.Proofs.Regex.Reader.Ending
import ParamTemplate.Proofs.Regex.Reader.Numbering

set_option autoImplicit false

namespace ParamTemplate.Regex

open Relation (ReflTransGen)

/-! ### Levels of groups -/

/-- A first branch that starts where a level was opened stays as it is. -/
theorem Level.joinRows_opened {start : Position} {rows : List Row} (hne : rows ≠ [])
    (h : (rows.getLast hne).span.start = start) : joinRows (opened start) rows = rows := by
  induction rows with
  | nil => exact absurd rfl hne
  | cons row rows ih =>
      cases rows with
      | nil =>
          subst h
          simp [joinRows, opened]
      | cons row' rows =>
          rw [joinRows, ih (List.cons_ne_nil _ _) (by simpa using h)]
          simp

/-- What starts where a group starts is what is read inside of the group. -/
theorem Level.on_opened {f : Frame} (hf : f.level = .opened f.offset) {level : Level}
    (h : level.first = 0) : level.on f true = level.moved f := by
  have first : (level.moved f).first = f.offset := by
    rw [first_moved, h, Nat.add_zero]
  change f.level.join (level.moved f) = _
  rw [hf]
  generalize level.moved f = level at first
  obtain ⟨start, items, rows⟩ := level
  cases rows with
  | nil =>
      obtain rfl : start = f.offset := first
      simp [join, joinRows, opened]
  | cons row rows =>
      have last : ((row :: rows).getLast (List.cons_ne_nil _ _)).span.start = f.offset := by
        simpa [Level.first, List.getLast?_eq_some_getLast (List.cons_ne_nil row rows)] using first
      simp only [join, joinRows_opened (List.cons_ne_nil _ _) last, List.isEmpty_cons,
        Bool.false_eq_true, if_false]

namespace Reader

variable {s t : Reader} {text : List Char} {p : Pattern}

/-! ### An expression on its own -/

/-- **A text is an expression on its own,** which comes out of a state. -/
structure Alone (text : List Char) (s : Reader) (p : Pattern) : Prop where
  feed : feedAll {} text = .ok s
  finish : s.finish = .ok p

theorem exists_alone (h : Pattern.read text = .ok p) :
    (∃ s, Alone text s p) ∧ p.tooDeep? 0 = none := by
  obtain ⟨s, hs, h⟩ := bind_eq_ok.1 h
  obtain ⟨q, hq, h⟩ := bind_eq_ok.1 h
  split at h
  · cases h
  next hdeep =>
    cases h
    exact ⟨⟨s, hs, hq⟩, hdeep⟩

/-- **Whether there is a comment at the end of a text,** which goes on behind it. -/
def endsInComment (text : List Char) : Bool := (feedAll {} text).toOption.any (·.comment)

namespace Alone

/-- An expression comes out of a text in one way only. -/
theorem eq {q : Pattern} (h : Alone text s p) (h' : Alone text t q) : p = q := by
  cases h.feed.symm.trans h'.feed
  cases h.finish.symm.trans h'.finish
  rfl

theorem read (h : Alone text s p) (hdeep : p.tooDeep? 0 = none) : Pattern.read text = .ok p := by
  refine bind_eq_ok.2 ⟨s, h.feed, bind_eq_ok.2 ⟨p, h.finish, ?_⟩⟩
  rw [hdeep]
  rfl

theorem reads (h : Alone text s p) : Reads text.length {} s := feedAll_reads fits_start h.feed

theorem pos (h : Alone text s p) : s.pos = text.length := by
  rw [h.reads.pos, Nat.zero_add]

theorem done (h : Alone text s p) : s.Done := (done_of_finish h.reads.fits h.finish).1

theorem endsInComment (h : Alone text s p) : endsInComment text = s.comment := by
  rw [Reader.endsInComment, h.feed]
  rfl

theorem close (h : Alone text s p) : s.settled.level.close s.pos = p :=
  (done_of_finish h.reads.fits h.finish).2.symm

/-- The end of an expression comes to moves, too. -/
theorem settled_moves (h : Alone text s p) : ReflTransGen Move s.outline s.settled.outline :=
  (settle_leads h.reads.fits (h.done.settle s.pos s.comment none nofun nofun)).moves

theorem moves (h : Alone text s p) : ReflTransGen Move ({} : Reader).outline s.settled.outline :=
  h.reads.moves.trans h.settled_moves

theorem mode_settled (h : Alone text s p) : s.settled.mode = .main := h.done.mode s.pos s.comment

theorem marks (h : Alone text s p) : s.settled.outline.marks = p.groupMarks := by
  rw [← h.close, Level.gather_close gathers_groupMarks]
  simp [Outline.marks, outline, h.mode_settled, h.done.stack, Mode.held]

theorem numbered (h : Alone text s p) : s.settled.outline.Numbered :=
  Outline.Numbered.moves ⟨rfl, .nil, fun _ hm => by cases hm⟩ h.moves

/-- **The groups of an expression are numbered from one on.** -/
theorem numbers (h : Alone text s p) : p.groupMarks.map Prod.snd = List.range' 1 s.groups := by
  rw [← h.marks, h.numbered.numbers]
  rw [outline, groups_settled]

/-- **The groups of an expression are numbered in the order of their places.** -/
theorem places (h : Alone text s p) : (p.groupMarks.map Prod.fst).Pairwise (· < ·) := by
  rw [← h.marks]
  exact h.numbered.places

theorem length_marks (h : Alone text s p) : p.groupMarks.length = s.groups := by
  have := congrArg List.length h.numbers
  rwa [List.length_map, List.length_range'] at this

/-- The groups of an expression, with their names. -/
theorem groupNames (h : Alone text s p) : s.settled.outline.groupNames = p.groupNames := by
  rw [← h.close, Level.gather_close gathers_groupNames]
  simp [Outline.groupNames, outline, h.mode_settled, h.done.stack, Mode.held]

/-- **The names that are taken at the end of an expression** are those that are defined in it. -/
theorem names (h : Alone text s p) : s.names.map Prod.fst = p.names.reverse := by
  have named : s.settled.outline.Named :=
    Outline.Named.moves (o := ({} : Reader).outline) rfl h.moves
  rw [Outline.Named, h.groupNames, outline, names_settled] at named
  exact named

theorem outermost (h : Alone text s p) :
    s.settled.level.Outermost none s.verbose := by
  have based : s.settled.outline.Based :=
    Outline.Based.moves (o := ({} : Reader).outline) ⟨rfl, nofun⟩ h.moves
  rw [Outline.Based, outline, h.mode_settled, stack_settled, h.done.stack, verbose_settled] at based
  exact based

/-- Without a setting that says so at the top level, blanks count behind an expression. -/
theorem verbose (h : Alone text s p)
    (hp : ∀ items ∈ p.directives, flagState .verbose items ≠ some true) : s.verbose = false := by
  cases hv : s.verbose with
  | false => rfl
  | true =>
      obtain ⟨items, hmem, hitems⟩ := h.outermost.verbose hv
      refine absurd hitems (hp items ?_)
      rw [← h.close, Level.gather_close gathers_directives]
      simpa using hmem

/-- Comments stand only where blanks are ignored. -/
theorem comment (h : Alone text s p) (hv : s.verbose = false) : s.comment = false := by
  cases hc : s.comment with
  | false => rfl
  | true => exact absurd (h.reads.comment nofun hc) (Bool.eq_false_iff.1 hv)

end Alone

/-- An expression does not begin with what would go on with something before it. -/
theorem head_of_feed {c : Char} (h : feed {} c = .ok t) : c ≠ '?' ∧ c ≠ '{' := by
  constructor
  · rintro rfl
    cases h
  · rintro rfl
    cases h

/-! ### Frames around an expression -/

/-- **All that was read up to a state,** as a frame. -/
def frame (s : Reader) : Frame where
  offset := s.pos
  groups := s.groups
  names := s.names
  level := s.level
  stack := s.stack

/-- Whether a state stands between two items, where blanks count. -/
structure Resting (s : Reader) : Prop where
  mode : s.mode = .main
  verbose : s.verbose = false
  comment : s.comment = false
  brackets : s.brackets = []

theorem resting_start : ({} : Reader).Resting := ⟨rfl, rfl, rfl, rfl⟩

/-- A state between two items is the beginning of an expression in a frame. -/
theorem Resting.on_frame (h : s.Resting) : ({} : Reader).on s.frame = s := by
  obtain ⟨pos, verbose, comment, groups, names, level, stack, brackets, mode⟩ := s
  obtain ⟨hmode, hverbose, hcomment, hbrackets⟩ := h
  dsimp only at hmode hverbose hcomment hbrackets
  subst hmode hverbose hcomment hbrackets
  rfl

theorem Resting.feed (h : s.Resting) (c : Char) : s.feed c = s.takeMain c :=
  feed_of_main h.comment h.mode fun hv => absurd hv (Bool.eq_false_iff.1 h.verbose)

/-- **Whether reading can go on behind a state as if it stood between two items,** except with what
would be taken for a part of what is over. -/
structure Ready (s t : Reader) : Prop where
  resting : t.Resting
  settled : s.settled = t
  feed : ∀ c, c ≠ '?' → c ≠ '{' → s.feed c = t.feed c
  finish : s.finish = t.finish

theorem Resting.settled (h : s.Resting) : s.settled = s := by
  unfold Reader.settled
  rw [h.mode]
  rfl

theorem Resting.ready (h : s.Resting) : s.Ready s := ⟨h, h.settled, fun _ _ _ => rfl, rfl⟩

variable {s' t' u v : Reader} {q : Pattern}

/-- An expression does not begin with what would be taken for a part of what is over. -/
theorem Ready.feedAll (h : s.Ready t) (ha : Alone text u p) (hs : s.feedAll text = .ok s') :
    text = [] ∧ s' = s ∨ s' = u.on t.frame := by
  cases text with
  | nil =>
      cases hs
      exact .inl ⟨rfl, rfl⟩
  | cons c text =>
      obtain ⟨v, hv, -⟩ := bind_eq_ok.1 ha.feed
      obtain ⟨hquestion, hbrace⟩ := head_of_feed hv
      rw [feedAll_cons, h.feed c hquestion hbrace, ← feedAll_cons, ← h.resting.on_frame] at hs
      exact .inr ((feedAll_on fits_start ha.feed).eq_of_ok hs)

/-- **An expression behind others:** its items come to the sequence at hand. -/
theorem Ready.join (h : s.Ready t) (ha : Alone text u p) (hv : u.verbose = false)
    (hs : s.feedAll text = .ok s') : s'.Ready (u.settled.on t.frame) := by
  rcases h.feedAll ha hs with ⟨rfl, rfl⟩ | rfl
  · cases ha.feed
    rw [show ({} : Reader).settled = {} from rfl, h.resting.on_frame]
    exact h
  · have mode : (u.settled.on t.frame).mode = .main := by
      rw [mode_on, ha.mode_settled]
      rfl
    have resting : (u.settled.on t.frame).Resting := by
      refine ⟨mode, ?_, ?_, ?_⟩
      · rw [verbose_on, verbose_settled, hv]
      · rw [comment_on, comment_settled, ha.comment hv]
      · rw [brackets_on, brackets_settled, ha.done.brackets]
        rfl
    refine ⟨resting, settled_on u, fun c hquestion hbrace => ?_, ha.done.finish_on⟩
    rw [resting.feed c]
    exact ha.done.feed_on (ha.comment hv) (fun hv' => absurd hv' (Bool.eq_false_iff.1 hv))
      hquestion hbrace

/-! ### Groups -/

/-- **An expression in a group that was just opened:** the parenthesis behind it closes the
group. -/
theorem Alone.close_on {f : Frame} {group : OpenGroup} {stack : List OpenGroup}
    (ha : Alone text u p) (hcomment : u.comment = false) (hstack : f.stack = group :: stack)
    (hlevel : f.level = .opened f.offset) :
    (u.on f).feed ')' = .ok { u.on f with
      pos := f.offset + u.pos + 1
      level := group.outer.push
        (.group ⟨group.span.start, f.offset + u.pos + 1⟩ group.kind (p.relabel f.relabelling))
      verbose := group.verbose
      stack
      mode := .main } := by
  rw [ha.done.feed_on hcomment (fun _ => by decide) (by decide) (by decide)]
  change (u.settled.on f).closeGroup = _
  have stack' : (u.settled.on f).stack = group :: stack := by
    simp only [on, stack_settled, ha.done.stack, Frame.open, hstack]
  have level : (u.settled.on f).level = u.settled.level.moved f := by
    simp only [on, stack_settled, ha.done.stack]
    exact Level.on_opened hlevel ha.outermost.first
  have close : (u.settled.level.moved f).close (f.offset + u.pos) = p.relabel f.relabelling := by
    rw [Level.close_moved, ha.close]
  unfold closeGroup
  rw [stack', level]
  simp only [on, comment_settled, groups_settled, names_settled, brackets_settled, pos_settled,
    close]

/-- Where a text ends in a group that was opened around it, the group is unclosed. -/
theorem Done.finish_on_of_open {f : Frame} {group : OpenGroup} {stack : List OpenGroup}
    (h : s.Done) (hstack : f.stack = group :: stack) :
    (s.on f).finish = .error { fault := .groupUnclosed, span := group.span } := by
  have mode : (s.settled.on f).mode = .main := by
    rw [mode_on, h.mode s.pos s.comment]
    rfl
  have stack' : (s.settled.on f).stack = group :: stack := by
    simp only [on, stack_settled, h.stack, Frame.open, hstack]
  rw [h.finish_on, finish_of_main mode, finishLevel, stack']
  rfl

/-- **A comment at the end of an expression in a group** swallows what is behind it in the line, so
that the group is never closed. -/
theorem Alone.finish_on_of_comment {f : Frame} {group : OpenGroup} {stack : List OpenGroup}
    {rest : List Char} (ha : Alone text u p) (hcomment : u.comment = true)
    (hstack : f.stack = group :: stack) (hrest : '\n' ∉ rest) :
    ∃ t, (u.on f).feedAll rest = .ok t ∧
      t.finish = .error { fault := .groupUnclosed, span := group.span } := by
  let last : Reader := { u with pos := u.pos + rest.length, comment := true }
  have swallowed : (u.on f).feedAll rest = .ok (last.on f) := by
    have passed := feedAll_comment (s := u.on f) ((Mode.isApart_on _).trans ha.done.isApart)
      hcomment hrest
    rwa [pos_on, Nat.add_assoc] at passed
  have done : last.Done := ha.done.moved ..
  exact ⟨_, swallowed, done.finish_on_of_open hstack⟩

/-- The state after a parenthesis that opens a group with a number. -/
def afterParenthesis (s : Reader) : Reader :=
  { s with pos := s.pos + 1 }.openNumbered (.ofChar s.pos)

theorem Resting.afterParenthesis (h : s.Resting) : s.afterParenthesis.Resting :=
  ⟨rfl, h.verbose, h.comment, h.brackets⟩

/-- What follows a parenthesis decides what it opens: all but a question mark is the beginning of
what is in the group. -/
theorem Resting.feed_parenthesis (h : s.Resting) : ∃ t, s.feed '(' = .ok t ∧
    ∀ c, c ≠ '?' → t.feed c = s.afterParenthesis.feed c := by
  refine ⟨_, h.feed '(', fun c hc => ?_⟩
  have resting := h.afterParenthesis
  rw [resting.feed c]
  refine feed_of_settle (s := s.pass (.groupOpen (.ofChar s.pos))) h.comment rfl ?_ ?_ rfl ?_
  · exact skips_eq_false fun hv => absurd hv (Bool.eq_false_iff.1 h.verbose)
  · exact if_neg (by simpa using hc)
  · exact skips_eq_false fun hv => absurd hv (Bool.eq_false_iff.1 resting.verbose)

/-- What is read of an expression in parentheses, behind others, is read of a group that was just
opened. -/
theorem Ready.feedAll_group (h : s.Ready t) (ha : Alone text u p) :
    s.feedAll ('(' :: (text ++ [')'])) =
      (({} : Reader).on t.afterParenthesis.frame).feedAll text >>= fun w => w.feedAll [')'] := by
  obtain ⟨v, hv', hfeed⟩ := h.resting.feed_parenthesis
  have resting := h.resting.afterParenthesis
  -- Nothing is read between the parentheses, or the first character decides that a group is opened.
  rw [feedAll_cons, h.feed '(' (by decide) (by decide), hv', resting.on_frame, ← feedAll_append]
  change v.feedAll (text ++ [')']) = _
  cases text with
  | nil =>
      rw [List.nil_append, feedAll_cons, feedAll_cons, hfeed _ (by decide)]
  | cons c text =>
      obtain ⟨w, hw, -⟩ := bind_eq_ok.1 ha.feed
      rw [List.cons_append, feedAll_cons, feedAll_cons, hfeed c (head_of_feed hw).1]

/-- **An expression in a group of its own, behind others:** the group gets the next number, and
comes to the sequence at hand.  What is set inside of it does not matter. -/
theorem Ready.group (h : s.Ready t) (ha : Alone text u p) (hcomment : u.comment = false)
    (hs : s.feedAll ('(' :: (text ++ [')'])) = .ok s') :
    s' = { u.on t.afterParenthesis.frame with
      pos := t.pos + 1 + text.length + 1
      level := t.level.push (.group ⟨t.pos, t.pos + 1 + text.length + 1⟩ (.numbered (t.groups + 1))
        (p.relabel t.afterParenthesis.frame.relabelling))
      verbose := t.verbose
      stack := t.stack
      mode := .main } ∧ s'.Resting := by
  rw [h.feedAll_group ha] at hs
  obtain ⟨w, hw, hs⟩ := bind_eq_ok.1 hs
  rw [(feedAll_on fits_start ha.feed).eq_of_ok hw] at hs
  rw [feedAll_cons, ha.close_on hcomment rfl rfl] at hs
  cases hs
  have pos : t.afterParenthesis.frame.offset + u.pos + 1 = t.pos + 1 + text.length + 1 := by
    rw [ha.pos]
    rfl
  refine ⟨?_, ⟨rfl, h.resting.verbose, hcomment, ?_⟩⟩
  · rw [pos]
    rfl
  · rw [brackets_on, ha.done.brackets]
    rfl

/-! ### Names -/

/-- What stands behind others can be read if it takes other names. -/
theorem Ready.exists_feedAll (h : s.Ready t) (ha : Alone text u p)
    (hnames : ∀ name ∈ u.names.map Prod.fst, name ∉ t.names.map Prod.fst) :
    ∃ s', s.feedAll text = .ok s' := by
  cases text with
  | nil => exact ⟨s, rfl⟩
  | cons c text =>
      obtain ⟨v, hv, -⟩ := bind_eq_ok.1 ha.feed
      obtain ⟨hquestion, hbrace⟩ := head_of_feed hv
      rw [feedAll_cons, h.feed c hquestion hbrace, ← feedAll_cons, ← h.resting.on_frame]
      exact ⟨_, feedAll_on_of_names fits_start ha.feed hnames⟩

/-- What stands behind others, in a group of its own, can be read if it takes other names and does
not end in a comment. -/
theorem Ready.exists_feedAll_group (h : s.Ready t) (ha : Alone text u p)
    (hcomment : u.comment = false)
    (hnames : ∀ name ∈ u.names.map Prod.fst, name ∉ t.names.map Prod.fst) :
    ∃ s', s.feedAll ('(' :: (text ++ [')'])) = .ok s' := by
  rw [h.feedAll_group ha, feedAll_on_of_names (f := t.afterParenthesis.frame) fits_start ha.feed
    hnames]
  exact ⟨_, bind_eq_ok.2 ⟨_, rfl, bind_eq_ok.2 ⟨_, ha.close_on hcomment rfl rfl, rfl⟩⟩⟩

end Reader

end ParamTemplate.Regex
