/-
**Braces that are held back.**

The cutter has one mark for a brace that is held back.  Outside of placeholders the mark stands for
an opening brace, inside for a closing one, and inside it meets the count of the braces that are
nested there.  If the mark could be set while braces are nested, or outlive the change from outside
to inside, a brace would be lost or would come to stand at the wrong place.

That it cannot follows from an invariant of three parts: outside no brace is nested; inside a brace
is held back only where none is nested; and outside, what has been read never ends in an opening
brace.  Under the invariant a character does one of five things, which are told apart once
(`Template.Cutter.Step`); the rest is read off them.

Main definitions:

* `Template.Cutter.Sound` — the invariant;
* `Template.Cutter.Step` — what a character does;
* `Template.Cutter.Settles` — what becomes of the braces with the next character, or at the end.

Main results:

* `Template.Cutter.Sound.step` — in a sound state a character does one of the five things;
* `Template.Cutter.sound_feedAll` — after any characters the state is sound;
* `Template.Cutter.braces_settled` — **no brace is lost, counted wrongly or put at a wrong place**.
-/

import Mathlib.Data.List.Induction
import ParamTemplate.Template.Piece

set_option autoImplicit false

namespace ParamTemplate.Template.Cutter

variable {s t : Cutter} {c : Char}

/-! ### What a character does -/

/-- The piece that is completed when the text that is being read ends; none if there is no text. -/
def completed (s : Cutter) : List Piece := if s.buffer = [] then [] else [s.current]

/-- The text that is being read, once the brace that is held back has joined it, in reverse
order. -/
def released (s : Cutter) : List Char := if s.held then s.brace :: s.buffer else s.buffer

theorem flush_eq (s : Cutter) :
    s.flush = { s with buffer := [], pieces := s.completed ++ s.pieces } := by
  unfold flush completed
  cases hbuffer : s.buffer with
  | nil =>
      obtain ⟨inside, held, depth, buffer, pieces⟩ := s
      obtain rfl : buffer = [] := hbuffer
      rfl
  | cons d buffer => rfl

theorem release_eq (s : Cutter) : s.release = { s with held := false, buffer := s.released } := by
  unfold release released
  cases hheld : s.held with
  | false =>
      obtain ⟨inside, held, depth, buffer, pieces⟩ := s
      obtain rfl : held = false := hheld
      rfl
  | true => rfl

/-- **What is true after any characters.** -/
structure Sound (s : Cutter) : Prop where
  /-- Outside no brace is nested. -/
  depth_outside : s.inside = false → s.depth = 0
  /-- Inside a brace is held back only where no brace is nested. -/
  depth_held : s.inside = true → s.held = true → s.depth = 0
  /-- Outside, what has been read does not end in an opening brace. -/
  buffer_outside : s.inside = false → s.buffer.head? ≠ some '{'

/-- Where a brace is held back, none is nested. -/
theorem Sound.depth_eq_zero (h : s.Sound) (hheld : s.held = true) : s.depth = 0 := by
  cases hinside : s.inside with
  | false => exact h.depth_outside hinside
  | true => exact h.depth_held hinside hheld

/-- **What a character does.** -/
inductive Step (s : Cutter) (c : Char) : Cutter → Prop
  /-- It could be the first half of a delimiter, and is held back. -/
  | hold (hc : c = s.brace) (hheld : s.held = false) (hdepth : s.depth = 0) :
      Step s c { s with held := true }
  /-- It is the second half of a delimiter; the first half was held back. -/
  | delimit (hc : c = s.brace) (hheld : s.held = true) (hdepth : s.depth = 0) :
      Step s c { s with
        inside := !s.inside, held := false, buffer := [], pieces := s.completed ++ s.pieces }
  /-- It closes a nested brace. -/
  | close (hinside : s.inside = true) (hc : c = '}') (hheld : s.held = false) {depth : Nat}
      (hdepth : s.depth = depth + 1) : Step s c { s with depth, buffer := c :: s.buffer }
  /-- It opens a nested brace. -/
  | nest (hinside : s.inside = true) (hc : c = '{') :
      Step s c { s with held := false, depth := s.depth + 1, buffer := c :: s.released }
  /-- It is text. -/
  | text (hc : c ≠ s.brace) (hnested : s.inside = true → c ≠ '{') :
      Step s c { s with held := false, buffer := c :: s.released }

theorem brace_of_outside (h : s.inside = false) : s.brace = '{' := by
  rw [brace, h, if_neg Bool.false_ne_true]

theorem brace_of_inside (h : s.inside = true) : s.brace = '}' := by
  rw [brace, if_pos h]

/-- A brace that could be half of a delimiter is held back, or is the second half. -/
theorem step_delimit (hc : c = s.brace) (hdepth : s.depth = 0) : Step s c s.delimit := by
  unfold delimit
  cases hheld : s.held with
  | false => exact .hold hc hheld hdepth
  | true =>
      rw [if_pos rfl, flush_eq]
      exact .delimit hc hheld hdepth

/-- **In a sound state a character does one of the five things.** -/
theorem Sound.step (h : s.Sound) (c : Char) : Step s c (s.feed c) := by
  cases hinside : s.inside with
  | false =>
      have hbrace := brace_of_outside hinside
      rw [feed, if_neg (by simp [hinside]), feedLiteral]
      by_cases hc : c = '{'
      · rw [if_pos hc]
        exact step_delimit (hc.trans hbrace.symm) (h.depth_outside hinside)
      · rw [if_neg hc, push, release_eq]
        exact .text (fun heq => hc (heq.trans hbrace)) (by simp [hinside])
  | true =>
      have hbrace := brace_of_inside hinside
      rw [feed, if_pos hinside, feedPlaceholder]
      by_cases hc : c = '}'
      · rw [if_pos hc]
        cases hdepth : s.depth with
        | zero => exact step_delimit (hc.trans hbrace.symm) hdepth
        | succ depth =>
            -- A brace that is held back would have been held back while a brace is nested.
            have hheld : s.held = false := by
              cases hheld : s.held with
              | false => rfl
              | true => exact absurd (h.depth_held hinside hheld) (by omega)
            exact .close hinside hc hheld hdepth
      · rw [if_neg hc]
        by_cases ho : c = '{'
        · rw [if_pos ho, push, release_eq]
          exact .nest hinside ho
        · rw [if_neg ho, push, release_eq]
          exact .text (fun heq => hc (heq.trans hbrace)) fun _ => ho

/-- Inside, a state is sound where no brace is held back. -/
theorem sound_of_inside (hinside : s.inside = true) (hheld : s.held = false) : s.Sound where
  depth_outside houtside := absurd (hinside.symm.trans houtside) (by simp)
  depth_held _ hheld' := absurd (hheld.symm.trans hheld') (by simp)
  buffer_outside houtside := absurd (hinside.symm.trans houtside) (by simp)

/-- **What a character does keeps a state sound.** -/
theorem Step.sound (step : Step s c t) (h : s.Sound) : t.Sound := by
  cases step with
  | hold hc hheld hdepth => exact ⟨h.depth_outside, fun _ _ => hdepth, h.buffer_outside⟩
  | delimit hc hheld hdepth => exact ⟨fun _ => hdepth, fun _ _ => hdepth, fun _ => by simp⟩
  | close hinside hc hheld hdepth => exact sound_of_inside hinside hheld
  | nest hinside hc => exact sound_of_inside hinside rfl
  | text hc hnested =>
      refine ⟨h.depth_outside, fun _ hheld => absurd hheld (by simp), fun houtside hlast => ?_⟩
      -- The text outside ends in this character, which is not the brace that is held back there.
      obtain rfl : c = '{' := by simpa using hlast
      exact hc (brace_of_outside houtside).symm

/-- **After any characters the state is sound.** -/
theorem sound_feedAll (text : List Char) : (feedAll {} text).Sound := by
  induction text using List.reverseRecOn with
  | nil => exact ⟨fun _ => rfl, fun _ _ => rfl, fun _ => by simp⟩
  | append_singleton text c ih =>
      rw [feedAll_append, feedAll_cons, feedAll_nil]
      exact (ih.step c).sound ih

/-! ### What becomes of the braces -/

/-- Whether a character closes a nested brace. -/
def ClosesNested (s : Cutter) (c : Char) : Prop := s.inside = true ∧ c = '}' ∧ 0 < s.depth

/-- Whether a character opens a nested brace. -/
def OpensNested (s : Cutter) (c : Char) : Prop := s.inside = true ∧ c = '{'

instance (s : Cutter) (c : Char) : Decidable (s.ClosesNested c) :=
  inferInstanceAs (Decidable (_ ∧ _))

instance (s : Cutter) (c : Char) : Decidable (s.OpensNested c) :=
  inferInstanceAs (Decidable (_ ∧ _))

/-- **What becomes of the braces** with the next character, or when there is none. -/
structure Settles (s : Cutter) : Prop where
  /-- A nested brace is closed only where no brace is held back. -/
  held_of_closes (c : Char) : s.ClosesNested c → s.held = false
  /-- The count of nested braces goes up by one and down by one, and never below zero. -/
  depth_feed (c : Char) : ((s.feed c).depth : Int) = s.depth +
    (if s.OpensNested c then 1 else 0) - (if s.ClosesNested c then 1 else 0)
  /-- A brace comes to be held back before it is text, and changes nothing else. -/
  feed_of_hold (c : Char) : s.held = false → (s.feed c).held = true →
    c = s.brace ∧ s.feed c = { s with held := true }
  /-- A brace that is held back is consumed as the first half of a delimiter, -/
  feed_brace : s.held = true → s.feed s.brace = { s with
    inside := !s.inside, held := false, buffer := [], pieces := s.completed ++ s.pieces }
  /-- or is put directly before the next character, -/
  feed_of_ne (c : Char) : s.held = true → c ≠ s.brace →
    s.feed c = { s with
      held := false, depth := s.depth + if s.OpensNested c then 1 else 0
      buffer := c :: s.brace :: s.buffer }
  /-- or is the last character of the text, if there is no next one. -/
  finish_eq : s.held = true →
    s.finish = s.pieces.reverse ++ [({ s with buffer := s.brace :: s.buffer } : Cutter).current]
  /-- What is before an opening does not end in an opening brace. -/
  buffer_of_opening (c : Char) : s.inside = false → (s.feed c).inside = true →
    s.buffer.reverse.getLast? ≠ some '{' ∧ (s.feed c).pieces = s.completed ++ s.pieces

/-- The brace that is held back inside opens nothing. -/
theorem not_opensNested (hc : c = s.brace) : ¬s.OpensNested c := by
  rintro ⟨hinside, rfl⟩
  exact absurd (hc.trans (brace_of_inside hinside)) (by decide)

theorem Step.depth_eq (step : Step s c t) : (t.depth : Int) = s.depth +
    (if s.OpensNested c then 1 else 0) - (if s.ClosesNested c then 1 else 0) := by
  cases step with
  | hold hc hheld hdepth =>
      rw [if_neg (not_opensNested hc), if_neg fun hcloses => Nat.ne_of_gt hcloses.2.2 hdepth]
      simp
  | delimit hc hheld hdepth =>
      rw [if_neg (not_opensNested hc), if_neg fun hcloses => Nat.ne_of_gt hcloses.2.2 hdepth]
      simp
  | close hinside hc hheld hdepth =>
      have hopens : ¬s.OpensNested c := by
        rintro ⟨-, rfl⟩
        exact absurd hc (by decide)
      rw [if_neg hopens, if_pos ⟨hinside, hc, by omega⟩]
      simp only
      omega
  | nest hinside hc =>
      have hcloses : ¬s.ClosesNested c := by
        rintro ⟨-, rfl, -⟩
        exact absurd hc (by decide)
      rw [if_pos ⟨hinside, hc⟩, if_neg hcloses]
      simp
  | text hc hnested =>
      have hcloses : ¬s.ClosesNested c := fun ⟨hinside, heq, _⟩ =>
        hc (heq.trans (brace_of_inside hinside).symm)
      rw [if_neg fun hopens => hnested hopens.1 hopens.2, if_neg hcloses]
      simp

theorem finish_eq_of_held (h : s.held = true) : s.finish =
    s.pieces.reverse ++ [({ s with buffer := s.brace :: s.buffer } : Cutter).current] := by
  have hreleased : s.released = s.brace :: s.buffer := if_pos h
  rw [finish, release_eq, flush_eq, hreleased]
  exact List.reverse_cons

/-- In a sound state the next character settles what becomes of the braces. -/
theorem Sound.settles (h : s.Sound) : s.Settles where
  held_of_closes c hcloses := by
    cases hheld : s.held with
    | false => rfl
    | true => exact absurd (h.depth_eq_zero hheld) (Nat.ne_of_gt hcloses.2.2)
  depth_feed c := (h.step c).depth_eq
  feed_of_hold c hheld hholds := by
    have step := h.step c
    generalize s.feed c = t at step hholds ⊢
    cases step with
    | hold hc _ _ => exact ⟨hc, rfl⟩
    | delimit _ hheld' _ => exact absurd (hheld.symm.trans hheld') (by simp)
    | close _ _ hheld' _ => exact absurd (hheld'.symm.trans hholds) (by simp)
    | nest _ _ => exact absurd hholds (by simp)
    | text _ _ => exact absurd hholds (by simp)
  feed_brace hheld := by
    have step := h.step s.brace
    generalize s.feed s.brace = t at step ⊢
    cases step with
    | hold _ hheld' _ => exact absurd (hheld.symm.trans hheld') (by simp)
    | delimit _ _ _ => rfl
    | close _ _ hheld' _ => exact absurd (hheld.symm.trans hheld') (by simp)
    | nest hinside hc => exact absurd ⟨hinside, hc⟩ (not_opensNested rfl)
    | text hc _ => exact absurd rfl hc
  feed_of_ne c hheld hne := by
    have step := h.step c
    have hreleased : s.released = s.brace :: s.buffer := if_pos hheld
    generalize s.feed c = t at step ⊢
    cases step with
    | hold hc _ _ => exact absurd hc hne
    | delimit hc _ _ => exact absurd hc hne
    | close _ _ hheld' _ => exact absurd (hheld.symm.trans hheld') (by simp)
    | nest hinside hc => rw [if_pos ⟨hinside, hc⟩, hreleased]
    | text _ hnested =>
        rw [if_neg fun hopens => hnested hopens.1 hopens.2, hreleased]
        rfl
  finish_eq := finish_eq_of_held
  buffer_of_opening c houtside hopened := by
    have step := h.step c
    generalize s.feed c = t at step hopened ⊢
    rw [List.getLast?_reverse]
    cases step with
    | hold _ _ _ => exact absurd (houtside.symm.trans hopened) (by simp)
    | delimit _ _ _ => exact ⟨h.buffer_outside houtside, rfl⟩
    | close hinside _ _ _ => exact absurd (hinside.symm.trans houtside) (by simp)
    | nest hinside _ => exact absurd (hinside.symm.trans houtside) (by simp)
    | text _ _ => exact absurd (houtside.symm.trans hopened) (by simp)

/-- **No brace is lost, counted wrongly or put at a wrong place.**  After any characters, encoded or
not, no brace is nested outside of placeholders, and inside a brace is held back only where none is
nested.  Therefore nested braces are closed only where no brace is held back, and are never closed
more often than opened; a brace that is held back becomes half of a delimiter, or stands directly
before the next character, or last; and what an opening completes does not end in an opening
brace. -/
theorem braces_settled (text : List Char) :
    (feedAll {} text).Sound ∧ (feedAll {} text).Settles :=
  ⟨sound_feedAll text, (sound_feedAll text).settles⟩

end ParamTemplate.Template.Cutter
