/-
**A line feed behind an expression.**

Where blanks are ignored, a line feed behind an expression ends a comment or is passed over; the
expression stays the same but for the places where its parts end.  Where blanks count it is one more
character of the last branch.  It makes the expression no less deep and adds no group, and what is
matched begins with what was matched before.

Main definitions:

* `Regex.Pattern.Congruent` — two written expressions differ only in the places of their parts;
* `Regex.lineFeed` — a line feed, as a written character.

Main results:

* `Regex.Reader.exists_alone_lineFeed` — **what comes of an expression with a line feed behind it**;
* `Regex.Level.isSome_tooDeep?_push` — the expression is no less deep;
* `Regex.Level.matches_of_lineFeed` — what is matched begins with what was matched before;
* `Regex.Level.numbers_of_lineFeed` — the groups stay as they are.
-/

import ParamTemplate.Proofs.Regex.Groups
import ParamTemplate.Proofs.Regex.Reader.Joining
import ParamTemplate.Proofs.Regex.Reader.Sequence
import ParamTemplate.Proofs.Regex.Tying

set_option autoImplicit false

namespace ParamTemplate.Regex

/-! ### Expressions that differ in places only -/

/-- Forget where the parts of an expression stand, except where groups do. -/
def Relabelling.blur : Relabelling where
  group := id
  span _ := ⟨0, 0⟩
  number := id

/-- **Whether two written expressions differ only in the places of their parts,** and have their
groups at the same places. -/
def Pattern.Congruent (p q : Pattern) : Prop := p.relabel .blur = q.relabel .blur

namespace Pattern.Congruent

variable {p q : Pattern}

theorem toOption_meaning (h : p.Congruent q) (flags : Flags) :
    (p.meaning flags).toOption = (q.meaning flags).toOption := by
  have blurred : ∀ p : Pattern, ((p.relabel .blur).meaning flags).toOption =
      (p.meaning flags).toOption := by
    intro p
    rw [Pattern.meaning_relabel Function.injective_id]
    cases (p.meaning flags).toOption with
    | none => rfl
    | some result => simp [Relabelling.blur]
  rw [← blurred p, ← blurred q, h]

/-- **Expressions that differ in places only have the same meaning.** -/
theorem meaning (h : p.Congruent q) {flags : Flags} {result : Expr × Flags}
    (hp : p.meaning flags = .ok result) : q.meaning flags = .ok result := by
  refine eq_ok_of_toOption ?_
  rw [← h.toOption_meaning, hp]
  rfl

theorem groupMarks (h : p.Congruent q) : p.groupMarks = q.groupMarks := by
  have blurred : ∀ p : Pattern, (p.relabel .blur).groupMarks = p.groupMarks := by
    intro p
    have marks : (p.relabel .blur).groupMarks =
        p.groupMarks.map fun mark => (id mark.1, id mark.2) :=
      Pattern.groupMarks_relabel (fun _ => rfl) p
    exact marks.trans (List.map_id _)
  rw [← blurred p, ← blurred q, h]

theorem groupNames (h : p.Congruent q) : p.groupNames = q.groupNames := by
  have blurred : ∀ p : Pattern, (p.relabel .blur).groupNames = p.groupNames := fun p =>
    (Pattern.groupNames_relabel .blur p).trans (List.map_id _)
  rw [← blurred p, ← blurred q, h]

end Pattern.Congruent

/-- Rows with congruent items are congruent. -/
theorem Row.congruent_close {row row' : Row}
    (h : row.items.map (·.relabel .blur) = row'.items.map (·.relabel .blur)) :
    row.close.Congruent row'.close := by
  have blurred : ∀ row : Row, row.close.relabel .blur =
      (⟨⟨0, 0⟩, row.items.map (·.relabel .blur)⟩ : Row).close := by
    intro row
    obtain ⟨span, items⟩ := row
    match items with
    | [] => rfl
    | [item] => rfl
    | item :: item' :: items =>
        simp only [close, List.map_cons, Pattern.relabel, Pattern.relabelAll_eq_map,
          List.map_reverse]
        rfl
  rw [Pattern.Congruent, blurred, blurred, h]

/-- Levels with the same branches and congruent items at hand are congruent. -/
theorem Level.congruent_close {level level' : Level} (rows : level.rows = level'.rows)
    (h : level.items.map (·.relabel .blur) = level'.items.map (·.relabel .blur))
    (stop stop' : Position) : (level.close stop).Congruent (level'.close stop') := by
  obtain ⟨start, items, before⟩ := level
  obtain ⟨start', items', before'⟩ := level'
  obtain rfl : before = before' := rows
  have last : (⟨⟨start, stop⟩, items⟩ : Row).close.Congruent
      (⟨⟨start', stop'⟩, items'⟩ : Row).close := Row.congruent_close h
  cases before with
  | nil => exact last
  | cons row before =>
      unfold Pattern.Congruent at last ⊢
      simp only [close, Level.row, Pattern.relabel, Pattern.relabelAll_eq_map, List.reverse_cons,
        List.map_append, List.map_cons, List.map_nil, last]
      rfl

/-- What a mode leaves does not depend on where the expression ends, but for its place. -/
theorem Mode.rest_blur (mode : Mode) (stop stop' : Position) :
    (mode.rest stop).map (·.relabel .blur) = (mode.rest stop').map (·.relabel .blur) := by
  cases mode with
  | afterHexFixed start digitsStart width digits =>
      simp only [rest, Option.map_map]
      rfl
  | afterHexBraced start brace digitsStart digitsStop digits =>
      simp only [rest, Option.map_map]
      rfl
  | _ => rfl

/-! ### One more item -/

mutual

/-- What is too deep stays so when more levels are open around it. -/
theorem Bracket.isSome_tooDeep?_mono {depth depth' : Nat} (h : depth ≤ depth') : (b : Bracket) →
    (b.tooDeep? depth).isSome → (b.tooDeep? depth').isSome
  | .empty _, hb | .literal _, hb | .range .., hb | .ascii .., hb | .short .., hb
  | .property .., hb => by cases hb
  | .nested span _ content, hb => by
      simp only [Bracket.tooDeep?] at hb ⊢
      split at hb
      · rw [if_pos (by omega)]
        rfl
      · split
        · rfl
        · exact Bracket.isSome_tooDeep?_mono (Nat.succ_le_succ h) content hb
  | .union span items, hb => by
      simp only [Bracket.tooDeep?] at hb ⊢
      split at hb
      · rw [if_pos (by omega)]
        rfl
      · split
        · rfl
        · exact Bracket.isSome_anyTooDeep?_mono (Nat.succ_le_succ h) items hb
  | .op span _ left right, hb => by
      simp only [Bracket.tooDeep?] at hb ⊢
      split at hb
      · rw [if_pos (by omega)]
        rfl
      · split
        · rfl
        · rw [Option.isSome_or, Bool.or_eq_true] at hb ⊢
          exact hb.imp (Bracket.isSome_tooDeep?_mono (Nat.succ_le_succ h) left)
            (Bracket.isSome_tooDeep?_mono (Nat.succ_le_succ h) right)

theorem Bracket.isSome_anyTooDeep?_mono {depth depth' : Nat} (h : depth ≤ depth') :
    (items : List Bracket) → (Bracket.anyTooDeep? depth items).isSome →
      (Bracket.anyTooDeep? depth' items).isSome
  | [], hb => by cases hb
  | item :: rest, hb => by
      simp only [Bracket.anyTooDeep?, Option.isSome_or, Bool.or_eq_true] at hb ⊢
      exact hb.imp (Bracket.isSome_tooDeep?_mono h item) (Bracket.isSome_anyTooDeep?_mono h rest)

end

mutual

/-- What is too deep stays so when more levels are open around it. -/
theorem Pattern.isSome_tooDeep?_mono {depth depth' : Nat} (h : depth ≤ depth') : (p : Pattern) →
    (p.tooDeep? depth).isSome → (p.tooDeep? depth').isSome
  | .empty _, hp | .flags .., hp | .literal _, hp | .dot _, hp | .assertion .., hp
  | .short .., hp | .property .., hp => by cases hp
  | .bracket span _ content, hp => by
      simp only [Pattern.tooDeep?] at hp ⊢
      split at hp
      · rw [if_pos (by omega)]
        rfl
      · split
        · rfl
        · exact Bracket.isSome_tooDeep?_mono (Nat.succ_le_succ h) content hp
  | .repetition span _ _ _ body, hp | .group span _ body, hp => by
      simp only [Pattern.tooDeep?] at hp ⊢
      split at hp
      · rw [if_pos (by omega)]
        rfl
      · split
        · rfl
        · exact Pattern.isSome_tooDeep?_mono (Nat.succ_le_succ h) body hp
  | .choice span items, hp | .sequence span items, hp => by
      simp only [Pattern.tooDeep?] at hp ⊢
      split at hp
      · rw [if_pos (by omega)]
        rfl
      · split
        · rfl
        · exact Pattern.isSome_anyTooDeep?_mono (Nat.succ_le_succ h) items hp

theorem Pattern.isSome_anyTooDeep?_mono {depth depth' : Nat} (h : depth ≤ depth') :
    (items : List Pattern) → (Pattern.anyTooDeep? depth items).isSome →
      (Pattern.anyTooDeep? depth' items).isSome
  | [], hp => by cases hp
  | item :: rest, hp => by
      simp only [Pattern.anyTooDeep?, Option.isSome_or, Bool.or_eq_true] at hp ⊢
      exact hp.imp (Pattern.isSome_tooDeep?_mono h item) (Pattern.isSome_anyTooDeep?_mono h rest)

end

theorem Pattern.isSome_anyTooDeep?_append (depth : Nat) (items more : List Pattern) :
    (Pattern.anyTooDeep? depth (items ++ more)).isSome =
      ((Pattern.anyTooDeep? depth items).isSome || (Pattern.anyTooDeep? depth more).isSome) := by
  induction items with
  | nil => rfl
  | cons item items ih =>
      rw [List.cons_append, Pattern.anyTooDeep?, Pattern.anyTooDeep?, Option.isSome_or,
        Option.isSome_or, ih, Bool.or_assoc]

/-- A sequence with one more item is no less deep. -/
theorem Row.isSome_tooDeep?_cons (span span' : Span) (item : Pattern) (items : List Pattern)
    (depth : Nat) (h : (((⟨span, items⟩ : Row).close).tooDeep? depth).isSome) :
    (((⟨span', item :: items⟩ : Row).close).tooDeep? depth).isSome := by
  match items with
  | [] => cases h
  | [item'] =>
      simp only [close, Pattern.tooDeep?, List.reverse_cons, List.reverse_nil, List.nil_append]
        at h ⊢
      split
      · rfl
      · simp only [List.cons_append, Pattern.anyTooDeep?, Option.isSome_or,
          Pattern.isSome_tooDeep?_mono (Nat.le_succ depth) item' h, Bool.true_or]
  | item' :: item'' :: items =>
      simp only [close, Pattern.tooDeep?] at h ⊢
      split at h
      · rw [if_pos ‹_›]
        rfl
      · rw [if_neg ‹_›, List.reverse_cons, Pattern.isSome_anyTooDeep?_append, h, Bool.true_or]

/-- **An expression with one more item at its end is no less deep.** -/
theorem Level.isSome_tooDeep?_push (level : Level) (item : Pattern) (stop stop' : Position)
    (depth : Nat) (h : ((level.close stop).tooDeep? depth).isSome) :
    (((level.push item).close stop').tooDeep? depth).isSome := by
  obtain ⟨start, items, rows⟩ := level
  cases rows with
  | nil => exact Row.isSome_tooDeep?_cons _ _ item items depth h
  | cons row rows =>
      simp only [close, push, Level.row, List.reverse_cons, List.map_append, List.map_cons,
        List.map_nil, Pattern.tooDeep?] at h ⊢
      split at h
      · rw [if_pos ‹_›]
        rfl
      · rw [if_neg ‹_›]
        simp only [Pattern.isSome_anyTooDeep?_append, Bool.or_eq_true] at h ⊢
        refine h.imp id fun h => ?_
        simp only [Pattern.anyTooDeep?, Option.or_none] at h ⊢
        exact Row.isSome_tooDeep?_cons _ _ item items _ h

/-! ### Rows -/

/-- A line feed, as a written character. -/
def lineFeed (pos : Position) : Pattern := .literal { span := .ofChar pos, char := '\n' }

/-- A sequence with a line feed behind it has one more item. -/
theorem Row.meaning_of_lineFeed {span span' : Span} {items : List Pattern} {pos : Position}
    {flags flags₁ flags₂ : Flags} {e e' : Expr}
    (he : (⟨span, items⟩ : Row).close.meaning flags = .ok (e, flags₁))
    (he' : (⟨span', lineFeed pos :: items⟩ : Row).close.meaning flags = .ok (e', flags₂)) :
    ∃ es last, e = .row es ∧ e' = .row (es ++ [last]) ∧
      (lineFeed pos).meaning flags₁ = .ok (last, flags₂) := by
  obtain ⟨es, hes, rfl⟩ := Row.meaning_close _ he
  obtain ⟨es', hes', rfl⟩ := Row.meaning_close _ he'
  rw [List.reverse_cons] at hes'
  obtain ⟨first, inner, second, hfirst, hsecond, rfl⟩ := Pattern.meanings_append.1 hes'
  rw [hes] at hfirst
  cases hfirst
  obtain ⟨⟨last, _⟩, hlast, hsecond⟩ := bind_eq_ok.1 hsecond
  cases hsecond
  exact ⟨es, last, rfl, rfl, hlast⟩

/-- A choice with a line feed behind it has the same branches, up to the last one. -/
theorem Level.meaning_of_lineFeed {level : Level} {stop stop' pos : Position}
    {flags flags₁ flags₂ : Flags} {e e' : Expr} (hrows : level.rows ≠ [])
    (he : (level.close stop).meaning flags = .ok (e, flags₁))
    (he' : ((level.push (lineFeed pos)).close stop').meaning flags = .ok (e', flags₂)) :
    ∃ es last last' inner flags₃ flags₄, e = .choice (es ++ [last]) ∧
      e' = .choice (es ++ [last']) ∧
      (level.row stop).close.meaning inner = .ok (last, flags₃) ∧
      ((level.push (lineFeed pos)).row stop').close.meaning inner = .ok (last', flags₄) ∧
      ((es ++ [last]).flatMap Expr.numbers).Sublist
        ((level.close stop).groupMarks.map Prod.snd) := by
  obtain ⟨start, items, rows⟩ := level
  cases rows with
  | nil => exact absurd rfl hrows
  | cons row rows =>
      simp only [close, push, Level.row, List.reverse_cons, List.map_append, List.map_cons,
        List.map_nil] at he he' ⊢
      obtain ⟨⟨es, inner⟩, hes, he⟩ := bind_eq_ok.1 he
      obtain ⟨⟨es', inner'⟩, hes', he'⟩ := bind_eq_ok.1 he'
      cases he
      cases he'
      have numbers := Pattern.allNumbers_sublist _ hes
      obtain ⟨first, between, second, hfirst, hsecond, rfl⟩ := Pattern.meanings_append.1 hes
      obtain ⟨first', between', second', hfirst', hsecond', rfl⟩ := Pattern.meanings_append.1 hes'
      rw [hfirst] at hfirst'
      cases hfirst'
      obtain ⟨⟨last, _⟩, hlast, hsecond⟩ := bind_eq_ok.1 hsecond
      obtain ⟨⟨last', _⟩, hlast', hsecond'⟩ := bind_eq_ok.1 hsecond'
      cases hsecond
      cases hsecond'
      exact ⟨first, last, last', _, _, _, rfl, rfl, hlast, hlast', numbers⟩

/-- **What a sequence with a line feed behind it matches begins with what it matches.** -/
theorem Row.matches_of_lineFeed {span span' : Span} {items : List Pattern} {pos : Position}
    {flags flags₁ flags₂ : Flags} {e e' : Expr} {text : List Char} {i j : Nat}
    (he : (⟨span, items⟩ : Row).close.meaning flags = .ok (e, flags₁))
    (he' : (⟨span', lineFeed pos :: items⟩ : Row).close.meaning flags = .ok (e', flags₂))
    (h : e'.Matches text i j) : ∃ k, e.Matches text i k := by
  obtain ⟨es, last, rfl, rfl, -⟩ := Row.meaning_of_lineFeed he he'
  obtain ⟨saves, hrun⟩ := h
  obtain ⟨before, k, after, hbefore, -, rfl⟩ := Expr.runAll_append.1 (Expr.run_row.1 hrun)
  exact ⟨k, before, Expr.run_row.2 hbefore⟩

/-- With one branch only, that branch is the whole expression. -/
theorem Level.close_of_rows (level : Level) (h : level.rows = []) (stop : Position) :
    level.close stop = (level.row stop).close := by
  unfold close
  rw [h]

/-- **What is matched with a line feed behind it begins with what is matched without.** -/
theorem Level.matches_of_lineFeed {level : Level} {stop stop' pos : Position}
    {flags flags₁ flags₂ : Flags} {e e' : Expr} {text : List Char} {i j : Nat}
    (he : (level.close stop).meaning flags = .ok (e, flags₁))
    (he' : ((level.push (lineFeed pos)).close stop').meaning flags = .ok (e', flags₂))
    (h : e'.Matches text i j) : ∃ k, e.Matches text i k := by
  by_cases hrows : level.rows = []
  · rw [Level.close_of_rows level hrows] at he
    rw [Level.close_of_rows (level.push _) hrows] at he'
    exact Row.matches_of_lineFeed he he' h
  · obtain ⟨es, last, last', inner, _, _, rfl, rfl, hlast, hlast', -⟩ :=
      Level.meaning_of_lineFeed hrows he he'
    obtain ⟨saves, hrun⟩ := h
    obtain ⟨branch, hbranch, hrun⟩ := Expr.run_choice.1 hrun
    rcases List.mem_append.1 hbranch with hbranch | hbranch
    · exact ⟨j, saves, Expr.run_choice.2 ⟨branch, List.mem_append_left _ hbranch, hrun⟩⟩
    · rw [List.mem_singleton.1 hbranch] at hrun
      obtain ⟨k, before, hbefore⟩ := Row.matches_of_lineFeed hlast hlast' ⟨saves, hrun⟩
      exact ⟨k, before, Expr.run_choice.2
        ⟨last, List.mem_append_right _ (List.mem_singleton_self _), hbefore⟩⟩

theorem Expr.numbers_row (es : List Expr) : (row es).numbers = es.flatMap numbers := by
  match es with
  | [] => rfl
  | [e] => exact (List.flatMap_singleton ..).symm
  | e :: e' :: es => exact numbers_concat _

/-- A line feed adds no group to a sequence. -/
theorem Row.numbers_of_lineFeed {span span' : Span} {items : List Pattern} {pos : Position}
    {flags flags₁ flags₂ : Flags} {e e' : Expr}
    (he : (⟨span, items⟩ : Row).close.meaning flags = .ok (e, flags₁))
    (he' : (⟨span', lineFeed pos :: items⟩ : Row).close.meaning flags = .ok (e', flags₂)) :
    e'.numbers = e.numbers := by
  obtain ⟨es, last, rfl, rfl, hlast⟩ := Row.meaning_of_lineFeed he he'
  have none : last.numbers = [] := by
    have := Pattern.numbers_sublist (lineFeed pos) hlast
    exact List.sublist_nil.1 this
  rw [Expr.numbers_row, Expr.numbers_row, List.flatMap_append, List.flatMap_singleton, none,
    List.append_nil]

/-- **A line feed behind an expression** leaves its groups as they are, if no number is used twice.
-/
theorem Level.numbers_of_lineFeed {level : Level} {stop stop' pos : Position}
    {flags flags₁ flags₂ : Flags} {e e' : Expr}
    (hnodup : ((level.close stop).groupMarks.map Prod.snd).Nodup)
    (he : (level.close stop).meaning flags = .ok (e, flags₁))
    (he' : ((level.push (lineFeed pos)).close stop').meaning flags = .ok (e', flags₂)) :
    e'.numbers = e.numbers := by
  by_cases hrows : level.rows = []
  · rw [Level.close_of_rows level hrows] at he
    rw [Level.close_of_rows (level.push _) hrows] at he'
    exact Row.numbers_of_lineFeed he he'
  · obtain ⟨es, last, last', inner, _, _, rfl, rfl, hlast, hlast', numbers⟩ :=
      Level.meaning_of_lineFeed hrows he he'
    have nodup := hnodup.sublist numbers
    have same : (es ++ [last']).flatMap Expr.numbers = (es ++ [last]).flatMap Expr.numbers := by
      simp only [List.flatMap_append, List.flatMap_singleton, Row.numbers_of_lineFeed hlast hlast']
    rw [(Expr.chosen_choice _).numbers_eq nodup, (Expr.chosen_choice _).numbers_eq (same ▸ nodup),
      same]

/-! ### The line feed -/

namespace Reader

variable {s : Reader} {text : List Char} {p : Pattern}

/-- What is left may be put in its place at one place or another. -/
theorem congruent_settled (s : Reader) (pos : Position) (comment : Bool) (stop stop' : Position) :
    (({ s with pos, comment } : Reader).settled.level.close stop).Congruent
      (s.settled.level.close stop') := by
  have rest := s.mode.rest_blur pos s.pos
  unfold settled
  dsimp only
  cases h : s.mode.rest s.pos with
  | none =>
      rw [h, Option.map_none, Option.map_eq_none_iff] at rest
      rw [rest]
      exact Level.congruent_close rfl rfl stop stop'
  | some item =>
      rw [h, Option.map_some, Option.map_eq_some_iff] at rest
      obtain ⟨item', hitem', heq⟩ := rest
      rw [hitem']
      have items : (s.level.push item').items.map (·.relabel .blur) =
          (s.level.push item).items.map (·.relabel .blur) := by
        simp only [Level.push, List.map_cons, heq]
      have rows : (s.level.push item').rows = (s.level.push item).rows := rfl
      exact Level.congruent_close rows items stop stop'

theorem feedAll_lineFeed (h : Alone text s p) :
    feedAll {} (text ++ ['\n']) = s.advance '\n' := by
  rw [feedAll_append, h.feed, ← feed_eq_advance h.done.isApart]
  change s.feed '\n' >>= _ = _
  cases s.feed '\n' <;> rfl

/-- A line feed that ends a comment, or is skipped as a blank, adds nothing. -/
theorem alone_of_passed (h : Alone text s p) (hpassed : s.comment = true ∨ s.skips '\n' = true) :
    s.verbose = true ∧ ∃ t q, Alone (text ++ ['\n']) t q ∧ t.comment = false ∧ q.Congruent p := by
  have verbose : s.verbose = true := by
    rcases hpassed with hcomment | hskips
    · exact h.reads.comment nofun hcomment
    · exact (Bool.and_eq_true_iff.1 (Bool.and_eq_true_iff.1 hskips).1).1
  have advance : s.advance '\n' = .ok { s with pos := s.pos + 1, comment := false } := by
    unfold Reader.advance
    split
    · rfl
    next hcomment =>
      rw [if_pos (hpassed.resolve_left hcomment)]
      rfl
  have finish := (h.done.moved (s.pos + 1) false).finish
  refine ⟨verbose, _, _, ⟨(feedAll_lineFeed h).trans advance, finish⟩, rfl, ?_⟩
  rw [← h.close]
  exact congruent_settled ..

/-- Where blanks are ignored, a line feed at which something is put in its place adds nothing
either. -/
theorem alone_of_settled (h : Alone text s p) (hcomment : s.comment = false)
    (hskips : s.skips '\n' = false) (hverbose : s.verbose = true) :
    ∃ t q, Alone (text ++ ['\n']) t q ∧ t.comment = false ∧ q.Congruent p := by
  have settle : s.settle (some '\n') = .ok s.settled :=
    h.done.settle s.pos s.comment (some '\n') (by decide) (by decide)
  have skips : s.settled.skips '\n' = true := by
    rw [Reader.skips, verbose_settled, h.mode_settled, hverbose]
    decide
  have advance : s.advance '\n' = .ok { s.settled with pos := s.pos + 1, comment := false } := by
    unfold Reader.advance
    rw [hcomment, if_neg Bool.false_ne_true, hskips, if_neg Bool.false_ne_true, settle]
    change (if s.settled.skips '\n' then _ else _) = _
    rw [if_pos skips, ← pos_settled s]
    rfl
  have finish : finish { s.settled with pos := s.pos + 1, comment := false } =
      .ok (s.settled.level.close (s.pos + 1)) := by
    refine (finish_of_main (s := { s.settled with pos := s.pos + 1, comment := false })
      h.mode_settled).trans ?_
    unfold finishLevel
    dsimp only
    rw [stack_settled, h.done.stack]
  refine ⟨_, _, ⟨(feedAll_lineFeed h).trans advance, finish⟩, rfl, ?_⟩
  rw [← h.close]
  exact Level.congruent_close rfl rfl ..

/-- Where blanks count, a line feed is one more character to match. -/
theorem alone_of_taken (h : Alone text s p) (hverbose : s.verbose = false) :
    ∃ t, Alone (text ++ ['\n']) t ((s.settled.level.push (lineFeed s.pos)).close (s.pos + 1)) ∧
      t.comment = false := by
  have settle : s.settle (some '\n') = .ok s.settled :=
    h.done.settle s.pos s.comment (some '\n') (by decide) (by decide)
  have skips : ∀ r : Reader, r.verbose = false → r.skips '\n' = false := by
    intro r hr
    rw [Reader.skips, hr]
    rfl
  have taken : s.feed '\n' = s.settled.takeMain '\n' :=
    feed_of_settle (h.comment hverbose) h.done.isApart (skips s hverbose) settle h.mode_settled
      (skips s.settled ((verbose_settled s).trans hverbose))
  have delivered : s.settled.takeMain '\n' =
      .ok ({ s.settled with pos := s.pos + 1 }.push (lineFeed s.pos)) := by
    change Reader.deliver { s.settled with pos := s.settled.pos + 1 }
      (.literal { span := .ofChar s.settled.pos, char := '\n' }) = _
    unfold deliver
    dsimp only
    rw [brackets_settled, h.done.brackets, pos_settled]
    rfl
  rw [feed_eq_advance h.done.isApart] at taken
  refine ⟨_, ⟨((feedAll_lineFeed h).trans taken).trans delivered, ?_⟩, ?_⟩
  · refine (finish_of_main rfl).trans ?_
    unfold finishLevel push
    dsimp only
    rw [stack_settled, h.done.stack]
  · exact (comment_settled s).trans (h.comment hverbose)

/-- **What comes of an expression with a line feed behind it:** where blanks are ignored the same
expression, otherwise one with one more character. -/
theorem exists_alone_lineFeed (h : Alone text s p) : ∃ t q, Alone (text ++ ['\n']) t q ∧
    t.comment = false ∧ ((s.verbose = true ∧ q.Congruent p) ∨ (s.verbose = false ∧
      q = (s.settled.level.push (lineFeed s.pos)).close (s.pos + 1))) := by
  by_cases hpassed : s.comment = true ∨ s.skips '\n' = true
  · obtain ⟨hverbose, t, q, hq, hcomment, hcongruent⟩ := alone_of_passed h hpassed
    exact ⟨t, q, hq, hcomment, .inl ⟨hverbose, hcongruent⟩⟩
  · rw [not_or, Bool.not_eq_true, Bool.not_eq_true] at hpassed
    cases hverbose : s.verbose with
    | true =>
        obtain ⟨t, q, hq, hcomment, hcongruent⟩ :=
          alone_of_settled h hpassed.1 hpassed.2 hverbose
        exact ⟨t, q, hq, hcomment, .inl ⟨rfl, hcongruent⟩⟩
    | false =>
        obtain ⟨t, ht, hcomment⟩ := alone_of_taken h hverbose
        exact ⟨t, _, ht, hcomment, .inr ⟨rfl, rfl⟩⟩

end Reader

end ParamTemplate.Regex
