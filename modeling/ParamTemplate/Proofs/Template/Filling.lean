/-
**Filling in placeholders.**

A template of plain characters and placeholders without expressions is a form.  A text conforms to
it if the form becomes the text when a value, which is all on one line, is filled in for each
placeholder.  There may be several ways to do that.  The one that is found gives as much as possible
to the first placeholder, then as much as possible to the second one, and so on.

Main definitions:

* `Template.Piece.IsBare` — plain characters, or a placeholder without an expression;
* `Template.Fills` — a text is what pieces become with values for the placeholders;
* `Template.exprsFrom` — the expressions of pieces.

Main results:

* `Template.way_exprsFrom_iff` — the ways through the expressions of pieces;
* `Template.fills_greedily` — **the values that are found are the greediest ones.**
-/

import ParamTemplate.Proofs.Regex.Greed
import ParamTemplate.Proofs.Regex.Weighing
import ParamTemplate.Proofs.Template.Cutting

set_option autoImplicit false

namespace ParamTemplate.Template

open Regex Regex.Reader

/-! ### Forms -/

/-- Whether a character means something else than itself in an expression. -/
def hasMeaning (c : Char) : Bool :=
  ['\\', '.', '+', '*', '?', '(', ')', '|', '[', '{', '^', '$'].contains c

/-- **Whether a piece is bare:** plain characters, or a placeholder without an expression. -/
def Piece.IsBare : Piece → Prop
  | .literal text => ∀ c ∈ text, ¬hasMeaning c
  | .placeholder body => ',' ∉ body

instance (piece : Piece) : Decidable piece.IsBare :=
  match piece with
  | .literal text => List.decidableBAll (fun c => ¬hasMeaning c) text
  | .placeholder body => inferInstanceAs (Decidable (',' ∉ body))

/-- **A text is what pieces become** when values on one line are filled in for the placeholders. -/
inductive Fills : List Piece → List (List Char) → List Char → Prop where
  | nil : Fills [] [] []
  | literal {pieces : List Piece} {values : List (List Char)} {text : List Char}
      (chars : List Char) (rest : Fills pieces values text) :
      Fills (.literal chars :: pieces) values (chars ++ text)
  | placeholder {pieces : List Piece} {value : List Char} {values : List (List Char)}
      {text : List Char} (body : List Char) (line : '\n' ∉ value) (rest : Fills pieces values text) :
      Fills (.placeholder body :: pieces) (value :: values) (value ++ text)

/-- What stands between the braces of placeholders. -/
def bodies (pieces : List Piece) : List (List Char) :=
  pieces.filterMap fun
    | .literal _ => none
    | .placeholder body => some body

/-! ### The expressions of pieces -/

/-- The expression of a placeholder that has none of its own. -/
def anyLine : Expr := .repetition 0 none true (.set false (CharSet.single '\n').compl)

/-- **The expressions of pieces,** behind a number of groups. -/
def exprsFrom : Nat → List Piece → List Expr
  | _, [] => []
  | groups, .literal chars :: pieces => chars.map (fun c => .text [c]) ++ exprsFrom groups pieces
  | groups, .placeholder _ :: pieces =>
      .group (groups + 1) anyLine :: exprsFrom (groups + 1) pieces

section

variable {s : Reader} {es : List Expr} {pieces : List Piece}

/-- A character that means only itself becomes an item. -/
theorem feed_of_not_hasMeaning (h : s.Resting) {c : Char} (hc : ¬hasMeaning c) : s.feed c =
    .ok ({ s with pos := s.pos + 1 }.push (.literal { span := .ofChar s.pos, char := c })) := by
  rw [h.feed c]
  unfold takeMain
  split
  iterate 12 exact absurd (by decide) hc
  unfold complete deliver
  rw [h.brackets]
  rfl

/-- Plain characters become items that match themselves. -/
theorem means_of_plain {chars : List Char} (hplain : ∀ c ∈ chars, ¬hasMeaning c) (h : s.Resting)
    (hmeans : s.level.Means es) : ∃ s', s.feedAll chars = .ok s' ∧ s'.Resting ∧
      s'.groups = s.groups ∧ s'.level.Means (es ++ chars.map fun c => .text [c]) := by
  induction chars generalizing s es with
  | nil => exact ⟨s, rfl, h, rfl, by simpa using hmeans⟩
  | cons c chars ih =>
      obtain ⟨hc, hplain⟩ := List.forall_mem_cons.1 hplain
      have resting : ({ s with pos := s.pos + 1 }.push
          (.literal { span := .ofChar s.pos, char := c })).Resting :=
        ⟨rfl, h.verbose, h.comment, h.brackets⟩
      have meaning : (Pattern.literal { span := .ofChar s.pos, char := c }).meaning {} =
          .ok (.text [c], {}) := rfl
      obtain ⟨s', hs', hresting, hgroups, hmeans'⟩ := ih hplain resting (hmeans.push meaning)
      refine ⟨s', ?_, hresting, hgroups, ?_⟩
      · rw [feedAll_cons, feed_of_not_hasMeaning h hc]
        exact hs'
      · rwa [List.append_assoc] at hmeans'

/-- There is no group in plain characters. -/
theorem groupCount?_of_plain {chars : List Char} (hplain : ∀ c ∈ chars, ¬hasMeaning c) :
    (Regex.groupCount? chars).getD 0 = 0 := by
  unfold Regex.groupCount?
  cases hcompile : Regex.compile chars with
  | error cause => rfl
  | ok regex =>
      obtain ⟨u, p, hu⟩ := exists_accepted hcompile
      obtain ⟨s, hs, -, hgroups, -⟩ := means_of_plain hplain resting_start (Level.Means.opened 0)
      obtain rfl : s = u := Except.ok.inj (hs.symm.trans hu.alone.feed)
      have count := groupCount_le hcompile hu.read
      rw [hu.alone.length_marks, hgroups] at count
      exact Nat.le_zero.1 count

/-- A placeholder becomes a group. -/
theorem means_of_anyLine (h : s.Resting) (hmeans : s.level.Means es) :
    ∃ s', s.feedAll ['(', '.', '*', ')'] = .ok s' ∧ s'.Resting ∧ s'.groups = s.groups + 1 ∧
      s'.level.Means (es ++ [.group (s.groups + 1) anyLine]) := by
  obtain ⟨pos, verbose, comment, groups, names, level, stack, brackets, mode⟩ := s
  obtain ⟨hmode, hverbose, hcomment, hbrackets⟩ := h
  dsimp only at hmode hverbose hcomment hbrackets
  subst hmode hverbose hcomment hbrackets
  exact ⟨_, rfl, ⟨rfl, rfl, rfl, rfl⟩, rfl, hmeans.push rfl⟩

/-- **What is read of bare pieces,** one after the other. -/
theorem means_of_pieces {next position : Nat} (hbare : ∀ piece ∈ pieces, piece.IsBare)
    (h : s.Resting) (hmeans : s.level.Means es) : ∃ s',
      s.feedAll (assemble (Segment.ofPiecesFrom next position pieces)) = .ok s' ∧ s'.Resting ∧
        s'.level.Means (es ++ exprsFrom s.groups pieces) := by
  induction pieces generalizing s es next position with
  | nil => exact ⟨s, rfl, h, by simpa [exprsFrom] using hmeans⟩
  | cons piece pieces ih =>
      obtain ⟨hpiece, hpieces⟩ := List.forall_mem_cons.1 hbare
      rw [Segment.ofPiecesFrom, assemble_cons, feedAll_append]
      cases piece with
      | literal chars =>
          obtain ⟨t, ht, hresting, hgroups, hmeans'⟩ := means_of_plain hpiece h hmeans
          obtain ⟨s', hs', hresting', hmeans''⟩ := ih hpieces hresting hmeans'
          refine ⟨s', bind_eq_ok.2 ⟨t, ht, hs'⟩, hresting', ?_⟩
          rwa [hgroups, List.append_assoc] at hmeans''
      | placeholder body =>
          obtain ⟨t, ht, hresting, hgroups, hmeans'⟩ := means_of_anyLine h hmeans
          obtain ⟨s', hs', hresting', hmeans''⟩ := ih hpieces hresting hmeans'
          have source : (Segment.ofPiece next position (.placeholder body)).source =
              ['(', '.', '*', ')'] := by
            rw [Segment.ofPiece, splitBody_of_not_mem hpiece]
            rfl
          refine ⟨s', bind_eq_ok.2 ⟨t, source ▸ ht, hs'⟩, hresting', ?_⟩
          rwa [hgroups, List.append_assoc] at hmeans''

end

variable {input : List Char} {template : Template}

/-- The byte sequences of characters other than the line feed begin differently. -/
theorem steady_anyLine : (anyLine.load false .alone).Steady := by
  have starts : ((CharSet.single '\n').compl.byteSequences.map List.head?).Nodup := by
    decide +kernel
  have consumes : (Expr.set false (CharSet.single '\n').compl).consumes = true := by
    decide +kernel
  have load : anyLine.load false .alone = (Load.fixed { states := 1, branches := 2 }).andThen
      (Load.ofSet false (CharSet.single '\n').compl) := by
    rw [anyLine, Expr.load, consumes]
    rfl
  rw [load]
  exact (Load.steady_fixed _).andThen (Load.steady_ofSet starts)

/-- What bare pieces are read as adds the same everywhere. -/
theorem steady_of_mem_exprsFrom {groups : Nat} {pieces : List Piece} {e : Expr}
    (he : e ∈ exprsFrom groups pieces) : e.factors = [e] ∧ (e.load false .alone).Steady := by
  induction pieces generalizing groups with
  | nil => cases he
  | cons piece pieces ih =>
      cases piece with
      | literal chars =>
          rcases List.mem_append.1 he with he | he
          · obtain ⟨c, -, rfl⟩ := List.mem_map.1 he
            exact ⟨rfl, Load.steady_fixed _⟩
          · exact ih he
      | placeholder body =>
          rcases List.mem_cons.1 he with rfl | he
          · exact ⟨rfl, steady_anyLine⟩
          · exact ih he

/-- **What a template of bare pieces is compiled to.** -/
theorem compile_of_bare (h : compile input = .ok template)
    (hbare : ∀ piece ∈ Piece.cut input, piece.IsBare) :
    template.whole.expr = template.search.expr.tied ∧
      template.search.expr = .row (exprsFrom 0 (Piece.cut input)) := by
  obtain ⟨hsearch, hwhole, hsegments, -⟩ := accepted_of_compile h
  have source : template.source = assemble (Segment.ofPieces (Piece.cut input)) :=
    congrArg assemble hsegments
  obtain ⟨s, p, q, e, forms⟩ := exists_forms hsearch hwhole
  obtain ⟨t, ht, hresting, hmeans⟩ :=
    means_of_pieces hbare resting_start (Level.Means.opened 0)
  obtain rfl : t = s := by
    have feed := forms.alone.feed
    rw [source] at feed
    exact Except.ok.inj (ht.symm.trans feed)
  have hexpr : template.search.expr = .row (exprsFrom 0 (Piece.cut input)) := by
    obtain ⟨flags, hmeaning⟩ := forms.meaning
    rw [← forms.alone.close, hresting.settled] at hmeaning
    exact (hmeans.close hmeaning).1
  refine ⟨?_, hexpr⟩
  rcases forms.cases with rfl | ⟨-, htied, -, rfl⟩
  · exact forms.expr
  · -- With the line feed behind it, it would be too large as well.
    obtain ⟨flags, hinside⟩ := forms.inside
    rw [hresting.settled] at hinside
    have meaning : (lineFeed t.pos).meaning {} = .ok (.text ['\n'], {}) := rfl
    obtain ⟨rfl, -⟩ := (hmeans.push meaning).close hinside
    rw [hexpr] at htied
    have large := Expr.isTooLarge_tied_row (fun e he => (steady_of_mem_exprsFrom he).1)
      (fun e he => (steady_of_mem_exprsFrom he).2) ['\n'] htied
    obtain ⟨form, hform⟩ := exists_compile_of_whole hwhole
    have fits := isTooLarge_of_compile hform
    rw [forms.expr] at fits
    cases large.symm.trans fits

/-! ### Ways to fill in -/

/-- Where the values of placeholders stand in a text, from a place on. -/
def spansFrom : Nat → List Piece → List (List Char) → List (Nat × Nat)
  | _, [], _ => []
  | i, .literal chars :: pieces, values => spansFrom (i + chars.length) pieces values
  | _, .placeholder _ :: _, [] => []
  | i, .placeholder _ :: pieces, value :: values =>
      (i, i + value.length) :: spansFrom (i + value.length) pieces values

/-- What is remembered of groups with such ends, behind a number of groups. -/
def savesFor : Nat → List (Nat × Nat) → List Save
  | _, [] => []
  | groups, (start, stop) :: spans =>
      (2 * (groups + 1), start) :: (2 * (groups + 1) + 1, stop) :: savesFor (groups + 1) spans

section

variable {pieces : List Piece} {values : List (List Char)} {text written : List Char}
  {groups i j : Nat} {choices : List Bool} {saves : List Save}

theorem way_anyLine_iff : anyLine.Way text i choices saves j ↔
    ∃ value, value <+: text.drop i ∧ '\n' ∉ value ∧
      choices = List.replicate value.length false ++ [true] ∧ saves = [] ∧
      j = i + value.length := by
  have line : ∀ value : List Char,
      (∀ c ∈ value, (CharSet.single '\n').compl.contains c) ↔ '\n' ∉ value := by
    intro value
    simp only [CharSet.contains_compl, CharSet.contains_single, Bool.not_eq_true',
      decide_eq_false_iff_not]
    exact ⟨fun h hm => h _ hm rfl, fun h c hc he => h (he ▸ hc)⟩
  have letter : (CharSet.single '\n').compl.contains 'a' := by simp
  rw [anyLine, Expr.way_star_iff (CharSet.isEmpty_eq_false_iff.2 ⟨'a'.toNat, letter⟩)]
  simp only [line]

/-- **The ways through the expressions of pieces** fill in values, and tell by their choices how long
these are. -/
theorem way_exprsFrom_iff : (Expr.inRow (exprsFrom groups pieces)).Way text i choices saves j ↔
    ∃ values written, Fills pieces values written ∧ written <+: text.drop i ∧
      j = i + written.length ∧ choices = choicesFor (values.map List.length) ∧
      saves = savesFor groups (spansFrom i pieces values) := by
  induction pieces generalizing groups i choices saves with
  | nil =>
      rw [exprsFrom, Expr.way_nil_iff]
      constructor
      · rintro ⟨rfl, rfl, rfl⟩
        exact ⟨[], [], .nil, List.nil_prefix, rfl, rfl, rfl⟩
      · rintro ⟨_, _, ⟨⟩, -, rfl, rfl, rfl⟩
        exact ⟨rfl, rfl, rfl⟩
  | cons piece pieces ih =>
      cases piece with
      | literal chars =>
          rw [exprsFrom, Expr.way_chars_append_iff, ih]
          constructor
          · rintro ⟨hchars, values, written, hfills, hwritten, rfl, rfl, rfl⟩
            refine ⟨values, chars ++ written, .literal chars hfills,
              append_isPrefix_drop.2 ⟨hchars, hwritten⟩, ?_, rfl, rfl⟩
            rw [List.length_append, Nat.add_assoc]
          · rintro ⟨values, _, hfills, hwritten, rfl, rfl, rfl⟩
            cases hfills with
            | literal _ rest =>
                obtain ⟨hchars, hwritten⟩ := append_isPrefix_drop.1 hwritten
                refine ⟨hchars, values, _, rest, hwritten, ?_, rfl, rfl⟩
                rw [List.length_append, Nat.add_assoc]
      | placeholder body =>
          rw [exprsFrom, Expr.way_cons_iff]
          simp only [Expr.way_group_iff, way_anyLine_iff, ih]
          constructor
          · rintro ⟨_, _, _, _, _, ⟨_, ⟨value, hvalue, line, rfl, rfl, rfl⟩, rfl⟩,
              ⟨values, written, hfills, hwritten, rfl, rfl, rfl⟩, rfl, rfl⟩
            refine ⟨value :: values, value ++ written, .placeholder body line hfills,
              append_isPrefix_drop.2 ⟨hvalue, hwritten⟩, ?_, ?_, rfl⟩
            · rw [List.length_append, Nat.add_assoc]
            · rw [List.map_cons, choicesFor_cons, List.append_assoc]
              rfl
          · rintro ⟨_, _, hfills, hwritten, rfl, rfl, rfl⟩
            cases hfills with
            | @placeholder _ value values written _ line rest =>
                obtain ⟨hvalue, hwritten⟩ := append_isPrefix_drop.1 hwritten
                refine ⟨_, _, _, _, _, ⟨_, ⟨value, hvalue, line, rfl, rfl, rfl⟩, rfl⟩,
                  ⟨values, written, rest, hwritten, ?_, rfl, rfl⟩, ?_, rfl⟩
                · rw [List.length_append, Nat.add_assoc]
                · rw [List.map_cons, choicesFor_cons, List.append_assoc]
                  rfl

/-- A template fills all of a text if it fills some of it up to its end. -/
theorem way_whole_iff : (Expr.row (exprsFrom 0 pieces)).Way text 0 choices saves text.length ↔
    ∃ values, Fills pieces values text ∧ choices = choicesFor (values.map List.length) ∧
      saves = savesFor 0 (spansFrom 0 pieces values) := by
  rw [Expr.way_row_iff, way_exprsFrom_iff]
  constructor
  · rintro ⟨values, written, hfills, hwritten, hlength, hchoices, hsaves⟩
    obtain rfl : written = text := hwritten.eq_of_length (by simpa using hlength.symm)
    exact ⟨values, hfills, hchoices, hsaves⟩
  · rintro ⟨values, hfills, hchoices, hsaves⟩
    exact ⟨values, text, hfills, List.prefix_rfl, (Nat.zero_add _).symm, hchoices, hsaves⟩

theorem Fills.length_values (h : Fills pieces values text) :
    values.length = (bodies pieces).length := by
  induction h with
  | nil => rfl
  | literal chars _ ih => exact ih
  | placeholder body _ _ ih => exact congrArg (· + 1) ih

/-- Values of the same lengths are the same. -/
theorem Fills.eq_of_lengths {others : List (List Char)} (h : Fills pieces values text)
    (h' : Fills pieces others text) (hlengths : values.map List.length = others.map List.length) :
    values = others := by
  induction h generalizing others with
  | nil =>
      cases h'
      rfl
  | literal chars _ ih =>
      generalize htext : chars ++ _ = text at h'
      cases h' with
      | literal _ rest =>
          obtain rfl := List.append_cancel_left htext
          exact ih rest hlengths
  | @placeholder _ value values written body _ _ ih =>
      generalize htext : value ++ written = text at h'
      cases h' with
      | placeholder _ _ rest =>
          obtain ⟨hlength, hothers⟩ := List.cons.inj hlengths
          obtain ⟨rfl, rfl⟩ := List.append_inj htext hlength
          rw [ih rest hothers]

/-! ### The values that are found -/

theorem le_of_mem_savesFor {spans : List (Nat × Nat)} {save : Save}
    (h : save ∈ savesFor groups spans) : 2 * (groups + 1) ≤ save.1 := by
  induction spans generalizing groups with
  | nil => cases h
  | cons span spans ih =>
      rcases List.mem_cons.1 h with rfl | h
      · exact Nat.le_refl _
      · rcases List.mem_cons.1 h with rfl | h
        · exact Nat.le_succ _
        · have := ih h
          omega

/-- The ends of each group are what was remembered last of it. -/
theorem lastSaved_savesFor (groups k : Nat) (spans : List (Nat × Nat)) :
    lastSaved (savesFor groups spans) (2 * (groups + 1 + k)) = spans[k]?.map Prod.fst ∧
      lastSaved (savesFor groups spans) (2 * (groups + 1 + k) + 1) = spans[k]?.map Prod.snd := by
  induction spans generalizing groups k with
  | nil => exact ⟨rfl, rfl⟩
  | cons span spans ih =>
      obtain ⟨start, stop⟩ := span
      rw [savesFor]
      simp only [lastSaved_cons]
      cases k with
      | zero =>
          have later : ∀ slot < 2 * (groups + 2),
              lastSaved (savesFor (groups + 1) spans) slot = none := fun slot hslot =>
            lastSaved_eq_none fun save hsave => by
              have := le_of_mem_savesFor hsave
              omega
          rw [later _ (by omega), later _ (by omega)]
          simp
      | succ k =>
          obtain ⟨hstart, hstop⟩ := ih (groups + 1) k
          have number : groups + 1 + (k + 1) = groups + 1 + 1 + k := by omega
          rw [number, hstart, hstop, if_neg (by omega), if_neg (by omega), if_neg (by omega),
            if_neg (by omega)]
          simp

/-- The values stand where they are filled in. -/
theorem map_spansFrom (h : Fills pieces values written) {before after : List Char}
    (htext : text = before ++ (written ++ after)) :
    (spansFrom before.length pieces values).map
      (fun span => (text.take span.2).drop span.1) = values := by
  induction h generalizing before with
  | nil => rfl
  | literal chars _ ih =>
      have := @ih (before ++ chars) (by rw [htext]; simp only [List.append_assoc])
      rwa [List.length_append] at this
  | @placeholder _ value values written body _ _ ih =>
      have := @ih (before ++ value) (by rw [htext]; simp only [List.append_assoc])
      rw [List.length_append] at this
      rw [spansFrom, List.map_cons, this, htext, List.append_assoc, List.take_length_add_append,
        List.drop_left, List.take_left]

/-- **The values that are found stand in the groups of the placeholders.** -/
theorem group?_of_search_tied {e : Expr} {slots : Slots} (h : e.tied.program.search text = some slots)
    (hexpr : e = .row (exprsFrom 0 pieces)) :
    ∃ values, Fills pieces values text ∧
      (∀ k, ({ text, slots } : Captures).group? (k + 1) = values[k]?) ∧
      ∀ others, Fills pieces others text →
        others = values ∨ others.map List.length < values.map List.length := by
  subst hexpr
  obtain ⟨inner, hinner, -⟩ := Expr.group?_of_search_tied Nat.one_pos h
  obtain ⟨choices, hway, hfirst⟩ := id hinner
  obtain ⟨values, hvalues, rfl, rfl⟩ := way_whole_iff.1 hway
  refine ⟨values, hvalues, fun k => ?_, fun others hothers => ?_⟩
  · obtain ⟨inner, hinner', hgroup⟩ := Expr.group?_of_search_tied (Nat.succ_pos k) h
    obtain rfl := hinner.unique hinner'
    obtain ⟨start, stop⟩ := lastSaved_savesFor 0 k (spansFrom 0 pieces values)
    rw [Nat.zero_add, Nat.add_comm 1 k] at start stop
    have slice := congrArg (·[k]?) (@map_spansFrom _ _ text text hvalues [] [] (by simp))
    rw [hgroup, start, stop, ← slice, List.getElem?_map]
    cases (spansFrom 0 pieces values)[k]? <;> rfl
  · rcases hfirst _ _ (way_whole_iff.2 ⟨others, hothers, rfl, rfl⟩) with ⟨heq, -⟩ | hearlier
    · exact .inl (hothers.eq_of_lengths hvalues (eq_of_choicesFor heq))
    · refine .inr (lt_of_earlier_choicesFor ?_ hearlier)
      rw [List.length_map, List.length_map, hvalues.length_values, hothers.length_values]

end

/-- Names and values, if the groups of the placeholders follow each other. -/
theorem pairs_of_fills {parameters : Parameters} {pieces : List Piece} {values : List (List Char)}
    {text : List Char} {next position : Nat} (h : Fills pieces values text)
    (hbare : ∀ piece ∈ pieces, piece.IsBare)
    (hvalues : ∀ k, parameters.captures.group? (next + k) = values[k]?) :
    (Segment.ofPiecesFrom next position pieces).filterMap parameters.pair? =
      (bodies pieces).zip values := by
  induction h generalizing next position with
  | nil => rfl
  | literal chars _ ih =>
      obtain ⟨hchars, hbare⟩ := List.forall_mem_cons.1 hbare
      have width : (Segment.ofPiece next position (.literal chars)).width = 0 := by
        rw [Segment.width, Segment.ofPiece, groupCount?_of_plain hchars]
        rfl
      rw [Segment.ofPiecesFrom, width]
      exact ih hbare hvalues
  | @placeholder _ value values _ body _ _ ih =>
      obtain ⟨hbody, hbare⟩ := List.forall_mem_cons.1 hbare
      have segment : Segment.ofPiece next position (.placeholder body) =
          { kind := .placeholder body next, body := defaultPattern, position,
            groupCount? := Regex.groupCount? defaultPattern } := by
        rw [Segment.ofPiece, splitBody_of_not_mem hbody]
      have width : (Segment.ofPiece next position (.placeholder body)).width = 1 := by
        have count : Regex.groupCount? defaultPattern = some 0 := by decide +kernel
        rw [segment, Segment.width, count]
        rfl
      have pair : parameters.pair? (Segment.ofPiece next position (.placeholder body)) =
          some (body, value) := by
        have found : parameters.captures.group? next = some value := hvalues 0
        rw [segment]
        simp only [Parameters.pair?, Parameters.value?, Segment.name?, Segment.index?,
          Option.bind_some, found]
      rw [Segment.ofPiecesFrom, List.filterMap_cons, pair, width]
      refine congrArg (_ :: ·) (ih hbare fun k => ?_)
      rw [Nat.add_assoc, Nat.add_comm 1]
      exact hvalues (k + 1)

/-- **The values that are found are the greediest ones.**  A text conforms to a template of plain
characters and placeholders without expressions if and only if values on one line can be filled in
to get the text.  The values that are found can be filled in, and of all that can be they have the
greatest lengths, compared from the left. -/
theorem fills_greedily (h : compile input = .ok template)
    (hbare : ∀ piece ∈ Piece.cut input, piece.IsBare) (text : List Char) :
    ((template.parameters? text).isSome ↔ ∃ values, Fills (Piece.cut input) values text) ∧
      ∀ parameters, template.parameters? text = some parameters → ∃ values,
        Fills (Piece.cut input) values text ∧
        parameters.pairs.map Prod.fst = bodies (Piece.cut input) ∧
        parameters.pairs.map Prod.snd = values ∧
        ∀ others, Fills (Piece.cut input) others text →
          others = values ∨ others.map List.length < values.map List.length := by
  obtain ⟨hwhole, hsearch⟩ := compile_of_bare h hbare
  obtain ⟨-, hcompile, hsegments, -⟩ := accepted_of_compile h
  constructor
  · rw [parameters?, Option.isSome_map, Regex.captures?, Option.isSome_map,
      program_of_compileWhole hcompile, hwhole, Expr.isSome_search_tied_iff, hsearch]
    simp only [way_whole_iff]
    constructor
    · rintro ⟨_, _, values, hvalues, -⟩
      exact ⟨values, hvalues⟩
    · rintro ⟨values, hvalues⟩
      exact ⟨_, _, values, hvalues, rfl, rfl⟩
  · intro parameters hparameters
    obtain ⟨slots, hslots, rfl⟩ := exists_search_of_parameters? h hparameters
    rw [hwhole] at hslots
    obtain ⟨values, hvalues, hgroup, hgreatest⟩ := group?_of_search_tied hslots hsearch
    have pairs : Parameters.pairs { segments := template.segments, captures := { text, slots } } =
        (bodies (Piece.cut input)).zip values := by
      rw [Parameters.pairs, hsegments]
      refine pairs_of_fills hvalues hbare fun k => ?_
      rw [Nat.add_comm]
      exact hgroup k
    refine ⟨values, hvalues, ?_, ?_, hgreatest⟩
    · rw [pairs, List.map_fst_zip hvalues.length_values.ge]
    · rw [pairs, List.map_snd_zip hvalues.length_values.le]

/-- The first placeholder takes what is before the last separator. -/
theorem fills_greedily_of_separator : ∃ template, compile "{{a}}x{{b}}".toList = .ok template ∧
    ∃ parameters ∈ template.parameters? "1x2x3".toList,
      parameters.pairs.map Prod.snd = ["1x2".toList, "3".toList] ∧
      ∀ others, Fills (Piece.cut "{{a}}x{{b}}".toList) others "1x2x3".toList →
        others = ["1x2".toList, "3".toList] ∨ others.map List.length < [3, 1] := by
  obtain ⟨template, h, hbare, parameters, hparameters, hpairs⟩ :
      ∃ template, compile "{{a}}x{{b}}".toList = .ok template ∧
        (∀ piece ∈ Piece.cut "{{a}}x{{b}}".toList, piece.IsBare) ∧
        ∃ parameters ∈ template.parameters? "1x2x3".toList,
          parameters.pairs.map Prod.snd = ["1x2".toList, "3".toList] :=
    exists_eq_ok (by decide +kernel)
  obtain ⟨values, -, -, hvalues, hgreatest⟩ :=
    (fills_greedily h hbare "1x2x3".toList).2 parameters hparameters
  obtain rfl := hvalues.symm.trans hpairs
  exact ⟨template, h, parameters, hparameters, hpairs, hgreatest⟩

end ParamTemplate.Template
