/-
**Writing groups without a number.**

A text can be written with other groups that have a number: where a parenthesis opens a group, plain
or with a name, the group can be opened by `(?:` instead.  Where this may be done depends on the state
of the reader at the parenthesis, since a parenthesis may also stand inside of brackets, of a comment
or of an escape.  The two texts are read in lockstep.

Main definitions:

* `Regex.Recount.losing` — the numbers of the groups that are left when some of them are lost;
* `Regex.Reader.Regroups` — a text is another one in which some groups have lost their numbers.

Main results:

* `Regex.Reader.Regroups.feedAll` — **both texts are read in lockstep**;
* `Regex.Reader.Regroups.read` — **if the one is an expression, so is the other one,** with fewer
  groups.
-/

import ParamTemplate.Proofs.Regex.Reader.Joining
import ParamTemplate.Proofs.Regex.Reader.Lockstep
import ParamTemplate.Proofs.Regex.Uncounting

set_option autoImplicit false

namespace ParamTemplate.Regex

/-! ### The numbers that are left -/

/-- How many of the first groups are left. -/
def remaining (lost : Nat → Bool) : Nat → Nat
  | 0 => 0
  | groups + 1 => remaining lost groups + if lost (groups + 1) then 0 else 1

/-- **The numbers of the groups that are left** when some of them are lost. -/
def Recount.losing (lost : Nat → Bool) : Recount where
  number index := if lost index then none else some (remaining lost index)
  count := remaining lost

section

variable {lost : Nat → Bool} {groups : Nat}

theorem Recount.keeps_losing (h : lost (groups + 1) = false) :
    (Recount.losing lost).Keeps groups where
  number := by simp [losing, remaining, h]
  count := by simp [losing, remaining, h]

theorem remaining_le {m n : Nat} (h : m ≤ n) : remaining lost m ≤ remaining lost n := by
  induction h with
  | refl => exact Nat.le_refl _
  | step _ ih => exact Nat.le_trans ih (Nat.le_add_right _ _)

theorem remaining_lt {m n : Nat} (h : m < n) (hn : lost n = false) :
    remaining lost m < remaining lost n := by
  cases n with
  | zero => exact absurd h (Nat.not_lt_zero m)
  | succ n =>
      have : remaining lost m ≤ remaining lost n := remaining_le (Nat.le_of_lt_succ h)
      simp only [remaining, hn, Bool.false_eq_true, if_false]
      omega

/-- Different groups that are left have different numbers. -/
theorem keepsApart_losing (lost : Nat → Bool) : KeepsApart (Recount.losing lost).number := by
  intro i j k hi hj
  simp only [Recount.losing, Option.ite_none_left_eq_some, Option.some.injEq] at hi hj
  obtain ⟨hi, rfl⟩ := hi
  obtain ⟨hj, heq⟩ := hj
  rcases Nat.lt_trichotomy i j with hlt | rfl | hlt
  · have := remaining_lt hlt (Bool.eq_false_iff.2 hj)
    omega
  · rfl
  · have := remaining_lt hlt (Bool.eq_false_iff.2 hi)
    omega

end

namespace Reader

/-! ### Blanks -/

/-- The state after characters that are all passed over. -/
def passOver? (s : Reader) : List Char → Option Reader
  | [] => some s
  | c :: rest =>
      if s.comment then (s.passComment c).passOver? rest
      else if s.skips c then (s.skip c).passOver? rest
      else none

variable {s s' t t' u v : Reader} {text : List Char}

/-- The same characters are passed over in another mode in which blanks are passed over. -/
theorem exists_passOver? (hverbose : s'.verbose = s.verbose) (hcomment : s'.comment = s.comment)
    (hskips : s'.mode.skips = s.mode.skips) (h : s.passOver? text = some t) :
    ∃ pos, s'.passOver? text = some { s' with pos, comment := t.comment } ∧
      ∃ pos, t = { s with pos, comment := t.comment } := by
  induction text generalizing s s' with
  | nil =>
      cases h
      refine ⟨s'.pos, ?_, t.pos, rfl⟩
      rw [← hcomment]
      rfl
  | cons c rest ih =>
      have skips : s'.skips c = s.skips c := by rw [Reader.skips, Reader.skips, hverbose, hskips]
      unfold passOver? at h ⊢
      rw [hcomment, skips]
      split at h
      next hc =>
        rw [if_pos hc]
        exact @ih (s.passComment c) (s'.passComment c) hverbose rfl hskips h
      next hc =>
        rw [if_neg hc]
        split at h
        next hblank =>
          rw [if_pos hblank]
          exact @ih (s.skip c) (s'.skip c) hverbose rfl hskips h
        · cases h

/-- What is passed over is read. -/
theorem feedAll_of_passOver? (hmode : s.mode.isApart = false) (h : s.passOver? text = some t) :
    s.feedAll text = .ok t := by
  induction text generalizing s with
  | nil =>
      cases h
      rfl
  | cons c rest ih =>
      unfold passOver? at h
      rw [feedAll_cons, feed_eq_advance hmode, advance]
      split at h
      next hc =>
        rw [if_pos hc]
        exact ih (s := s.passComment c) hmode h
      next hc =>
        rw [if_neg hc]
        split at h
        next hblank =>
          rw [if_pos hblank]
          exact ih (s := s.skip c) hmode h
        · cases h

/-! ### Openings -/

/-- **What opens a group without a number.** -/
theorem feedAll_openPlain {span : Span} (hmode : s.mode = .groupOpen span)
    (hcomment : s.comment = false) :
    s.feedAll ['?', ':'] =
      .ok ({ s with pos := s.pos + 2 }.openGroup span (.plain []) s.verbose) := by
  obtain ⟨pos, verbose, comment, groups, names, level, stack, brackets, mode⟩ := s
  cases hmode
  cases hcomment
  cases verbose <;> rfl

/-- In a name each character is dealt with at once. -/
theorem feed_groupName {span : Span} {start : Position} {name : List Char} {c : Char}
    (hmode : s.mode = .groupName span start name) (hcomment : s.comment = false) :
    s.feed c = s.feedGroupName span start name c := by
  obtain ⟨pos, verbose, comment, groups, names, level, stack, brackets, mode⟩ := s
  cases hmode
  cases hcomment
  cases verbose <;> rfl

/-- **What opens a group with a name,** from the first character of the name on. -/
theorem exists_of_feedAll_groupName {span : Span} {start : Position} {seen name : List Char}
    (hmode : s.mode = .groupName span start seen) (hcomment : s.comment = false)
    (hname : '>' ∉ name) (h : s.feedAll (name ++ ['>']) = .ok t) :
    ∃ pos names label, t = { s with pos, groups := s.groups + 1, names }.openGroup span
      (.named (s.groups + 1) label) s.verbose := by
  induction name generalizing s seen with
  | nil =>
      obtain ⟨u, hu, h⟩ := bind_eq_ok.1 h
      cases h
      rw [feed_groupName hmode hcomment, feedGroupName, if_pos rfl] at hu
      split at hu
      · cases hu
      · split at hu
        · cases hu
        · cases hu
          exact ⟨_, _, _, rfl⟩
  | cons c name ih =>
      obtain ⟨hc, hname⟩ := not_or.1 (mt List.mem_cons.2 hname)
      obtain ⟨u, hu, h⟩ := bind_eq_ok.1 h
      rw [feed_groupName hmode hcomment, feedGroupName, if_neg (Ne.symm hc)] at hu
      split at hu
      · cases hu
        exact ih (s := s.pass (.groupName span start (c :: seen))) rfl hcomment hname h
      · cases hu

/-- **What opens a group with a name.** -/
theorem exists_of_feedAll_named {span : Span} {mark name : List Char}
    (hmode : s.mode = .groupOpen span) (hcomment : s.comment = false)
    (hmark : mark = ['?', 'P', '<'] ∨ mark = ['?', '<']) (hname : '>' ∉ name)
    (h : s.feedAll (mark ++ (name ++ ['>'])) = .ok t) :
    ∃ pos names label, t = { s with pos, groups := s.groups + 1, names }.openGroup span
      (.named (s.groups + 1) label) s.verbose := by
  obtain ⟨pos, verbose, comment, groups, names, level, stack, brackets, mode⟩ := s
  cases hmode
  cases hcomment
  rcases hmark with rfl | rfl
  · have marked : feedAll ⟨pos, verbose, false, groups, names, level, stack, brackets, .groupOpen span⟩
        ['?', 'P', '<'] = .ok ⟨pos + 3, verbose, false, groups, names, level, stack, brackets,
          .groupName span (pos + 3) []⟩ := by
      cases verbose <;> rfl
    rw [feedAll_append, marked] at h
    exact exists_of_feedAll_groupName (s := ⟨_, _, _, _, _, _, _, _, .groupName ..⟩) rfl rfl hname h
  · have marked : feedAll ⟨pos, verbose, false, groups, names, level, stack, brackets, .groupOpen span⟩
        ['?', '<'] = .ok ⟨pos + 2, verbose, false, groups, names, level, stack, brackets,
          .groupAngle span⟩ := by
      cases verbose <;> rfl
    rw [feedAll_append, marked] at h
    replace h : feedAll ⟨pos + 2, verbose, false, groups, names, level, stack, brackets,
      .groupAngle span⟩ (name ++ ['>']) = .ok t := h
    -- Here the first character of the name decides that there is one.
    have decided : ∀ c u, feed ⟨pos + 2, verbose, false, groups, names, level, stack, brackets,
        .groupAngle span⟩ c = .ok u → feed ⟨pos + 2, verbose, false, groups, names, level, stack,
          brackets, .groupName span (pos + 2) []⟩ c = .ok u := by
      intro c u hu
      rw [feed_groupName rfl rfl]
      rw [feed_eq_advance rfl] at hu
      by_cases hlook : isLookSign c
      · simp [advance, skips, Mode.skips, settle, take, hlook, refuse, bind, Except.bind] at hu
      · simpa [advance, skips, Mode.skips, settle, take, hlook, bind, Except.bind] using hu
    refine exists_of_feedAll_groupName (s := ⟨pos + 2, verbose, false, groups, names, level, stack,
      brackets, .groupName span (pos + 2) []⟩) rfl rfl hname ?_
    cases name with
    | nil =>
        obtain ⟨u, hu, h⟩ := bind_eq_ok.1 h
        exact bind_eq_ok.2 ⟨u, decided _ u hu, h⟩
    | cons c name =>
        obtain ⟨u, hu, h⟩ := bind_eq_ok.1 h
        exact bind_eq_ok.2 ⟨u, decided _ u hu, h⟩

/-- What is left when a group is opened in lockstep, with a number that is lost or without one. -/
theorem Alike.lose {lost : Nat → Bool} {span span' : Span} {kind : GroupKind} {pos pos' : Position}
    {names : List (List Char × Span)} (h : Alike (Recount.losing lost) s s')
    (hlost : lost (s.groups + 1)) (hkind : kind.strip (Recount.losing lost).number = .plain []) :
    Alike (Recount.losing lost)
      ({ s with pos, groups := s.groups + 1, names }.openGroup span kind s.verbose)
      ({ s' with pos := pos' }.openGroup span' (.plain []) s'.verbose) := by
  have count : Alike (Recount.losing lost) { s with pos, groups := s.groups + 1, names }
      { s' with pos := pos' } :=
    { h with groups := by simp [h.groups, Recount.losing, remaining, hlost] }
  exact count.openGroup hkind.symm h.verbose

/-! ### Texts with fewer groups -/

/-- **A parenthesis opens a group that loses its number.**  Blanks and comments may stand behind
it. -/
structure Loses (lost : Nat → Bool) (s t u : Reader) (span : Span) (blanks : List Char) :
    Prop where
  feed : s.feed '(' = .ok t
  kept : ∀ index, s.groups < index → index ≤ t.groups → lost index = false
  mode : t.mode = .groupOpen span
  comment : t.comment = false
  blanks : t.passOver? blanks = some u
  ended : u.comment = false
  lost : lost (t.groups + 1)

/-- **Whether a text is another one in which some groups have lost their numbers,** when both are
read from a state on. -/
inductive Regroups (lost : Nat → Bool) : Reader → List Char → List Char → Prop
  | nil (s : Reader) : Regroups lost s [] []
  /-- Another character stays as it is. -/
  | same {s t : Reader} {c : Char} {text text' : List Char} (feed : s.feed c = .ok t)
      (kept : ∀ index, s.groups < index → index ≤ t.groups → lost index = false)
      (rest : Regroups lost t text text') : Regroups lost s (c :: text) (c :: text')
  /-- A group without a name. -/
  | plain {s t u : Reader} {span : Span} {blanks : List Char} {c : Char} {text text' : List Char}
      (loses : Loses lost s t u span blanks) (skips : u.skips c = false) (question : c ≠ '?')
      (rest : Regroups lost (u.openNumbered span) (c :: text) text') :
      Regroups lost s ('(' :: (blanks ++ c :: text)) ('(' :: '?' :: ':' :: (blanks ++ text'))
  /-- A group with a name. -/
  | named {s t u v : Reader} {span : Span} {blanks mark name text text' : List Char}
      (loses : Loses lost s t u span blanks) (isMark : mark = ['?', 'P', '<'] ∨ mark = ['?', '<'])
      (isName : '>' ∉ name) (opened : u.feedAll (mark ++ (name ++ ['>'])) = .ok v)
      (rest : Regroups lost v text text') :
      Regroups lost s ('(' :: (blanks ++ (mark ++ (name ++ ['>']) ++ text)))
        ('(' :: '?' :: ':' :: (blanks ++ text'))

/-! ### Both texts -/

variable {lost : Nat → Bool} {text' : List Char}

theorem keepsBetween_losing {first last : Nat}
    (h : ∀ index, first < index → index ≤ last → lost index = false) :
    (Recount.losing lost).KeepsBetween first last :=
  fun groups hfirst hlast =>
    Recount.keeps_losing (h (groups + 1) (Nat.lt_succ_of_le hfirst) hlast)

theorem lockstep_start (lost : Nat → Bool) : Lockstep (Recount.losing lost) {} {} :=
  ⟨⟨rfl, rfl, rfl, rfl, rfl, rfl, rfl⟩, fits_start, fits_start, rfl, rfl⟩

/-- What follows a parenthesis decides that it opens a group with a number. -/
theorem feed_of_opening {span : Span} {c : Char} (hmode : s.mode = .groupOpen span)
    (hcomment : s.comment = false) (hskips : s.skips c = false) (hc : c ≠ '?') :
    s.feed c = (s.openNumbered span).feed c := by
  have settle : s.settle (some c) = .ok (s.openNumbered span) := by
    rw [Reader.settle, hmode]
    exact if_neg (by simpa using hc)
  have skips : (s.openNumbered span).skips c = false := by
    rw [← hskips, Reader.skips, Reader.skips, hmode]
    rfl
  have opened : (s.openNumbered span).settle (some c) = .ok (s.openNumbered span) := rfl
  rw [feed_of_settle hcomment (by rw [hmode]; rfl) hskips settle rfl skips]
  exact (feed_of_settle (s := s.openNumbered span) hcomment rfl skips opened rfl skips).symm

namespace Loses

variable {span : Span} {blanks : List Char}

/-- Blanks change neither the mode nor the number of groups. -/
theorem eq_of_blanks (h : Loses lost s t u span blanks) :
    u.mode = .groupOpen span ∧ u.groups = t.groups := by
  obtain ⟨-, -, pos, hu⟩ := exists_passOver? rfl rfl rfl h.blanks
  rw [hu]
  exact ⟨h.mode, rfl⟩

theorem feedAll_eq (h : Loses lost s t u span blanks) (rest : List Char) :
    s.feedAll ('(' :: (blanks ++ rest)) = u.feedAll rest := by
  have isApart : t.mode.isApart = false := by rw [h.mode]; rfl
  rw [feedAll_cons, h.feed]
  change t.feedAll (blanks ++ rest) = _
  rw [feedAll_append, feedAll_of_passOver? isApart h.blanks]
  rfl

/-- What is read of a text that begins with a group without a name. -/
theorem feedAll_plain {c : Char} (h : Loses lost s t u span blanks) (hskips : u.skips c = false)
    (hc : c ≠ '?') (rest : List Char) :
    s.feedAll ('(' :: (blanks ++ c :: rest)) = (u.openNumbered span).feedAll (c :: rest) := by
  rw [h.feedAll_eq, feedAll_cons, feedAll_cons,
    feed_of_opening h.eq_of_blanks.1 h.ended hskips hc]

/-- What is read of a text that begins with a group with a name. -/
theorem feedAll_named {opening : List Char} (h : Loses lost s t u span blanks)
    (hopened : u.feedAll opening = .ok v) (rest : List Char) :
    s.feedAll ('(' :: (blanks ++ (opening ++ rest))) = v.feedAll rest := by
  rw [h.feedAll_eq, feedAll_append, hopened]
  rfl

/-- The reader stands at a parenthesis whose meaning is not known yet. -/
theorem opening (h : Loses lost s t u span blanks) (hs : s.Fits) :
    Reads ('(' :: blanks).length s u ∧ u.Fits ∧ u.Opening span := by
  obtain ⟨mode, -⟩ := h.eq_of_blanks
  have read := h.feedAll_eq []
  rw [List.append_nil] at read
  have reads := feedAll_reads hs read
  have fits := reads.fits
  rw [Fits, mode] at fits
  refine ⟨reads, reads.fits, ?_, ?_, fits.2, fits.1⟩
  · rw [mode]
    rfl
  · rw [mode]
    exact fun _ => rfl

/-- What is read instead of a group that loses its number. -/
theorem exists_alike (h : Loses lost s t u span blanks)
    (hlock : Lockstep (Recount.losing lost) s s') :
    ∃ v', s'.feedAll ('(' :: '?' :: ':' :: blanks) = .ok v' ∧ v'.Fits ∧ v'.outline.Named ∧
      ∀ pos names kind, kind.strip (Recount.losing lost).number = .plain [] →
        Alike (Recount.losing lost)
          ({ u with pos, groups := u.groups + 1, names }.openGroup span kind u.verbose) v' := by
  obtain ⟨t', ht', hlock'⟩ := hlock.feed (keepsBetween_losing h.kept) h.feed
  obtain ⟨span', mode⟩ : ∃ span', t'.mode = .groupOpen span' := by
    have same := hlock'.alike.mode
    rw [h.mode] at same
    cases hm : t'.mode with
    | groupOpen span' => exact ⟨span', rfl⟩
    | _ =>
        rw [hm] at same
        cases same
  have comment : t'.comment = false := by rw [hlock'.alike.comment, h.comment]
  obtain ⟨w, hw⟩ : ∃ w, w = { t' with pos := t'.pos + 2 }.openGroup span' (.plain []) t'.verbose :=
    ⟨_, rfl⟩
  have opened : t'.feedAll ['?', ':'] = .ok w := by rw [hw, feedAll_openPlain mode comment]
  have verbose : w.verbose = t.verbose := by
    rw [hw]
    exact hlock'.alike.verbose
  have comment : w.comment = t.comment := by
    rw [hw]
    exact hlock'.alike.comment
  have main : w.mode = .main := by rw [hw]; rfl
  obtain ⟨pos', hblanks, pos, hu⟩ :=
    exists_passOver? verbose comment (by rw [main, h.mode]; rfl) h.blanks
  have read : s'.feedAll ('(' :: '?' :: ':' :: blanks) =
      .ok { w with pos := pos', comment := u.comment } := by
    refine bind_eq_ok.2 ⟨t', ht', ?_⟩
    change t'.feedAll (['?', ':'] ++ blanks) = _
    rw [feedAll_append, opened]
    exact feedAll_of_passOver? (by rw [main]; rfl) hblanks
  have reads := feedAll_reads hlock.fits' read
  refine ⟨_, read, reads.fits, hlock.named'.moves reads.moves, fun pos names kind hkind => ?_⟩
  have alike : Alike (Recount.losing lost)
      ({ t with pos, groups := t.groups + 1, names }.openGroup span kind t.verbose) w := by
    rw [hw]
    exact hlock'.alike.lose h.lost hkind
  rw [hu]
  exact { alike with comment := rfl }

end Loses

/-- **A text with fewer groups is read in lockstep.** -/
theorem Regroups.feedAll (h : Regroups lost s text text')
    (hlock : Lockstep (Recount.losing lost) s s') (ht : s.feedAll text = .ok t) :
    ∃ t', s'.feedAll text' = .ok t' ∧ Lockstep (Recount.losing lost) t t' := by
  induction h generalizing s' with
  | nil s =>
      cases ht
      exact ⟨s', rfl, hlock⟩
  | same feed kept _ ih =>
      obtain ⟨u, hu, ht⟩ := bind_eq_ok.1 ht
      cases hu.symm.trans feed
      obtain ⟨u', hu', hlock⟩ := hlock.feed (keepsBetween_losing kept) hu
      obtain ⟨t', ht', hlock⟩ := ih hlock ht
      exact ⟨t', bind_eq_ok.2 ⟨u', hu', ht'⟩, hlock⟩
  | @plain s w u span blanks c text text' loses skips question _ ih =>
      obtain ⟨reads, -, opening⟩ := loses.opening hlock.fits
      obtain ⟨v', hv', fits', named', halike⟩ := loses.exists_alike hlock
      have hlost : lost (u.groups + 1) := by rw [loses.eq_of_blanks.2, loses.lost]
      have leads := openNumbered_leads opening
      have alike := halike u.pos u.names (.numbered (u.groups + 1))
        (by simp [GroupKind.strip, Recount.losing, hlost])
      have opened : Lockstep (Recount.losing lost) (u.openNumbered span) v' :=
        ⟨alike, leads.fits, fits', (hlock.named.moves reads.moves).moves leads.moves, named'⟩
      rw [loses.feedAll_plain skips question] at ht
      obtain ⟨t', ht', hlock⟩ := ih opened ht
      refine ⟨t', ?_, hlock⟩
      change s'.feedAll (('(' :: '?' :: ':' :: blanks) ++ _) = _
      rw [feedAll_append, hv']
      exact ht'
  | @named s w u v span blanks mark name text text' loses isMark isName hopened _ ih =>
      obtain ⟨reads, fits, -⟩ := loses.opening hlock.fits
      obtain ⟨v', hv', fits', named', halike⟩ := loses.exists_alike hlock
      have hlost : lost (u.groups + 1) := by rw [loses.eq_of_blanks.2, loses.lost]
      obtain ⟨pos, names, label, hv⟩ :=
        exists_of_feedAll_named loses.eq_of_blanks.1 loses.ended isMark isName hopened
      have read := feedAll_reads fits hopened
      have alike := halike pos names (.named (u.groups + 1) label)
        (by simp [GroupKind.strip, Recount.losing, hlost])
      rw [← hv] at alike
      have opened : Lockstep (Recount.losing lost) v v' :=
        ⟨alike, read.fits, fits', (hlock.named.moves reads.moves).moves read.moves, named'⟩
      rw [loses.feedAll_named hopened] at ht
      obtain ⟨t', ht', hlock⟩ := ih opened ht
      refine ⟨t', ?_, hlock⟩
      change s'.feedAll (('(' :: '?' :: ':' :: blanks) ++ _) = _
      rw [feedAll_append, hv']
      exact ht'

/-- **A text with fewer groups is an expression, too,** the same one without these groups. -/
theorem Regroups.exists_alone {p : Pattern} (h : Regroups lost {} text text')
    (ha : Alone text t p) :
    ∃ t' p', Alone text' t' p' ∧ Lockstep (Recount.losing lost) t t' ∧
      p.Uncounts (Recount.losing lost).number p' := by
  obtain ⟨t', ht', hlock⟩ := h.feedAll (lockstep_start lost) ha.feed
  obtain ⟨p', hp', huncounts⟩ := hlock.finish ha.finish
  exact ⟨t', p', ⟨ht', hp'⟩, hlock, huncounts⟩

/-! ### Texts in a frame and one after the other -/

/-- Where reading begins may be told in another way, if the first character is read alike and no
group that is opened before it is lost. -/
theorem Regroups.of_feed_eq (h : Regroups lost t text text')
    (hfeed : ∀ c rest, text = c :: rest → s.feed c = t.feed c)
    (hkept : ∀ index, s.groups < index → index ≤ t.groups → lost index = false) :
    Regroups lost s text text' := by
  have kept : ∀ {u : Reader}, (∀ index, t.groups < index → index ≤ u.groups → lost index = false) →
      ∀ index, s.groups < index → index ≤ u.groups → lost index = false := by
    intro u hu index hfirst hlast
    rcases Nat.lt_or_ge t.groups index with hlt | hle
    · exact hu index hlt hlast
    · exact hkept index hfirst hle
  cases h with
  | nil => exact .nil s
  | same feed hsame rest => exact .same ((hfeed _ _ rfl).trans feed) (kept hsame) rest
  | plain loses skips question rest =>
      exact .plain { loses with feed := (hfeed _ _ rfl).trans loses.feed, kept := kept loses.kept }
        skips question rest
  | named loses isMark isName opened rest =>
      exact .named { loses with feed := (hfeed _ _ rfl).trans loses.feed, kept := kept loses.kept }
        isMark isName opened rest

/-- **Texts with fewer groups, one after the other.** -/
theorem Regroups.append {next next' : List Char} (h : Regroups lost s text text')
    (ht : s.feedAll text = .ok t) (hnext : Regroups lost t next next') :
    Regroups lost s (text ++ next) (text' ++ next') := by
  induction h with
  | nil s =>
      cases ht
      exact hnext
  | same feed kept _ ih =>
      obtain ⟨u, hu, ht⟩ := bind_eq_ok.1 ht
      cases hu.symm.trans feed
      exact .same feed kept (ih ht)
  | @plain s w u span blanks c text text' loses skips question _ ih =>
      rw [loses.feedAll_plain skips question] at ht
      have rest := ih ht
      simp only [List.cons_append, List.append_assoc] at rest ⊢
      exact .plain loses skips question rest
  | @named s w u v span blanks mark name text text' loses isMark isName hopened _ ih =>
      rw [loses.feedAll_named hopened] at ht
      have rest := ih ht
      have long := Regroups.named loses isMark isName hopened rest
      simpa only [List.cons_append, List.append_assoc] using long

section

variable {f : Frame} {lost' : Nat → Bool} {last : Nat}

theorem passOver?_on (h : s.passOver? text = some t) :
    (s.on f).passOver? text = some (t.on f) := by
  induction text generalizing s with
  | nil =>
      cases h
      rfl
  | cons c rest ih =>
      unfold passOver? at h ⊢
      rw [comment_on, skips_on]
      split at h
      next hc =>
        rw [if_pos hc]
        exact ih h
      next hc =>
        rw [if_neg hc]
        split at h
        next hblank =>
          rw [if_pos hblank]
          exact ih h
        · cases h

theorem kept_on (hkept : ∀ index, s.groups < index → index ≤ t.groups → lost index = false)
    (hlast : t.groups ≤ last)
    (hlost : ∀ index, s.groups < index → index ≤ last → lost' (f.groups + index) = lost index) :
    ∀ index, (s.on f).groups < index → index ≤ (t.on f).groups → lost' index = false := by
  intro index hfirst hend
  have first : f.groups + s.groups < index := hfirst
  have final : index ≤ f.groups + t.groups := hend
  obtain ⟨inner, rfl⟩ : ∃ inner, index = f.groups + inner := ⟨index - f.groups, by omega⟩
  rw [hlost inner (by omega) (by omega), hkept inner (by omega) (by omega)]

theorem Loses.on {span : Span} {blanks : List Char} (h : Loses lost s t u span blanks)
    (hs : s.Fits) (hread : ∃ v, (s.on f).feed '(' = .ok v) (hlast : t.groups + 1 ≤ last)
    (hlost : ∀ index, s.groups < index → index ≤ last → lost' (f.groups + index) = lost index) :
    Loses lost' (s.on f) (t.on f) (u.on f) (span.shift f.offset) blanks := by
  obtain ⟨v, hv⟩ := hread
  obtain rfl := (feed_on hs h.feed).eq_of_ok hv
  have groups := groups_le_of_moves (feed_reads hs h.feed).moves
  refine ⟨hv, kept_on h.kept (Nat.le_of_succ_le hlast) hlost, ?_, h.comment, passOver?_on h.blanks,
    h.ended, ?_⟩
  · rw [mode_on, h.mode]
    rfl
  · exact (hlost (t.groups + 1) (Nat.lt_succ_of_le groups) hlast).trans h.lost

/-- **Texts with fewer groups in a frame.** -/
theorem Regroups.on (h : Regroups lost s text text') (hs : s.Fits)
    (ht : s.feedAll text = .ok t) (hu : (s.on f).feedAll text = .ok u)
    (hlost : ∀ index, s.groups < index → index ≤ t.groups → lost' (f.groups + index) = lost index) :
    Regroups lost' (s.on f) text text' := by
  induction h with
  | nil s => exact .nil _
  | @same s v c text text' feed kept _ ih =>
      obtain ⟨v', hv', ht⟩ := bind_eq_ok.1 ht
      cases hv'.symm.trans feed
      obtain ⟨w, hw, hu⟩ := bind_eq_ok.1 hu
      obtain rfl := (feed_on hs feed).eq_of_ok hw
      have reads := feed_reads hs feed
      have rest := feedAll_reads reads.fits ht
      refine .same hw (kept_on kept rest.groups_le hlost)
        (ih reads.fits ht hu fun index hfirst => ?_)
      exact hlost index (Nat.lt_of_le_of_lt reads.groups_le hfirst)
  | @plain s w v span blanks c text text' loses skips question _ ih =>
      obtain ⟨reads, -, opening⟩ := loses.opening hs
      have leads := openNumbered_leads opening
      rw [loses.feedAll_plain skips question] at ht
      have rest := (feedAll_reads leads.fits ht).groups_le
      rw [show (v.openNumbered span).groups = w.groups + 1 by
        rw [← loses.eq_of_blanks.2]; rfl] at rest
      have loses' := loses.on hs ((bind_eq_ok.1 hu).imp fun _ => And.left) rest hlost
      have skips' : (v.on f).skips c = false := by rw [skips_on, skips]
      rw [loses'.feedAll_plain skips' question] at hu
      refine .plain loses' skips' question (ih leads.fits ht hu fun index hfirst => ?_)
      exact hlost index (Nat.lt_of_le_of_lt reads.groups_le (Nat.lt_of_succ_lt hfirst))
  | @named s w v x span blanks mark name text text' loses isMark isName hopened _ ih =>
      obtain ⟨reads, fits, -⟩ := loses.opening hs
      have read := feedAll_reads fits hopened
      rw [loses.feedAll_named hopened] at ht
      have rest := (feedAll_reads read.fits ht).groups_le
      obtain ⟨pos, names, label, hx⟩ :=
        exists_of_feedAll_named loses.eq_of_blanks.1 loses.ended isMark isName hopened
      have groups : x.groups = w.groups + 1 := by
        rw [hx, ← loses.eq_of_blanks.2]
        rfl
      have loses' :=
        loses.on hs ((bind_eq_ok.1 hu).imp fun _ => And.left) (groups ▸ rest) hlost
      rw [loses'.feedAll_eq, feedAll_append] at hu
      obtain ⟨y, hy, hu⟩ := bind_eq_ok.1 hu
      obtain rfl := (feedAll_on fits hopened).eq_of_ok hy
      refine .named loses' isMark isName hy (ih read.fits ht hu fun index hfirst => ?_)
      exact hlost index (Nat.lt_of_le_of_lt (Nat.le_trans reads.groups_le read.groups_le) hfirst)

end

/-! ### One group -/

/-- A text of which no group is lost stays as it is. -/
theorem Regroups.refl (hs : s.Fits) (ht : s.feedAll text = .ok t)
    (hkept : ∀ index, s.groups < index → index ≤ t.groups → lost index = false) :
    Regroups lost s text text := by
  induction text generalizing s with
  | nil => exact .nil s
  | cons c text ih =>
      obtain ⟨u, hu, ht⟩ := bind_eq_ok.1 ht
      have reads := feed_reads hs hu
      have rest := feedAll_reads reads.fits ht
      exact .same hu (fun index hfirst hlast => hkept index hfirst (Nat.le_trans hlast rest.groups_le))
        (ih reads.fits ht fun index hfirst => hkept index (Nat.lt_of_le_of_lt reads.groups_le hfirst))

/-- **A group may lose its number,** if its parenthesis stands between two items. -/
theorem regroups_of_resting (before after : List Char) {c : Char}
    (hs : feedAll {} before = .ok s) (hresting : s.Resting) (hc : c ≠ '?')
    (hread : (feedAll {} (before ++ '(' :: c :: after)).toOption.isSome) :
    Regroups (· == s.groups + 1) {} (before ++ '(' :: c :: after)
      (before ++ '(' :: '?' :: ':' :: c :: after) := by
  obtain ⟨t, ht⟩ := Option.isSome_iff_exists.1 hread
  replace ht := eq_ok_of_toOption ht
  have reads := feedAll_reads fits_start hs
  rw [feedAll_append, hs] at ht
  have first : Regroups (· == s.groups + 1) {} before before := by
    refine .refl fits_start hs fun index _ hlast => ?_
    exact beq_false_of_ne (Nat.ne_of_lt (Nat.lt_succ_of_le hlast))
  have loses : Loses (· == s.groups + 1) s (s.pass (.groupOpen (.ofChar s.pos)))
      (s.pass (.groupOpen (.ofChar s.pos))) (.ofChar s.pos) [] :=
    { feed := hresting.feed '('
      kept := fun index hfirst hlast => absurd hfirst (Nat.not_lt.2 hlast)
      mode := rfl
      comment := hresting.comment
      blanks := rfl
      ended := hresting.comment
      lost := beq_self_eq_true _ }
  have skips : (s.pass (.groupOpen (.ofChar s.pos))).skips c = false :=
    skips_eq_false fun hv => absurd hv (Bool.eq_false_iff.1 hresting.verbose)
  have leads := openNumbered_leads (loses.opening reads.fits).2.2
  have inside := (loses.feedAll_plain skips hc after).symm.trans ht
  refine first.append hs (.plain loses skips hc (.refl leads.fits inside fun index hfirst _ => ?_))
  exact beq_false_of_ne (Nat.ne_of_gt hfirst)

end Reader

end ParamTemplate.Regex
