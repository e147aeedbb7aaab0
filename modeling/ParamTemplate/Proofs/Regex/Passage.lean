/-
**Instructions in the place of others.**

Two lists of instructions may be gone through in ways that differ in their spots and choices, and
still do the same for the text around them.  For this it is not enough that they start and stop at
the same places of the text.  Ways are tried in an order, and a way that comes to a spot twice is
left out: so the ways through the one have to be in the same order as the ways through the other,
and two of them have to get in each other's way there if they do so here.

Some ways are never the preferred one, whatever stands around, because an earlier one does the same.
Instructions in the place of others may leave them out.

Main definitions:

* `Regex.Passage` — a way through instructions from their first place to the place behind them;
* `Regex.Corresponds` — ways through the one that correspond to ways through the other;
* `Regex.Replaces` — instructions can stand in the place of others.

Main results:

* `Regex.Replaces.trans` — one after the other;
* `Regex.Replaces.preferred` — **the preferred way through the one does what the preferred way
  through the other does.**
-/

import ParamTemplate.Proofs.Regex.Placing

set_option autoImplicit false

namespace ParamTemplate.Regex

/-! ### The order of choices -/

namespace Earlier

variable {choices others more rest : List Bool}

theorem append (h : Earlier choices others) (more rest : List Bool) :
    Earlier (choices ++ more) (others ++ rest) := by
  induction h with
  | part choices others => exact .part _ _
  | cons choice _ ih => exact .cons choice ih

theorem prepend (h : Earlier choices others) (first : List Bool) :
    Earlier (first ++ choices) (first ++ others) := by
  induction first with
  | nil => exact h
  | cons choice _ ih => exact .cons choice ih

theorem trans (h : Earlier choices others) (h' : Earlier others more) : Earlier choices more := by
  induction h generalizing more with
  | part choices others =>
      cases h' with
      | cons _ _ => exact .part _ _
  | cons choice _ ih =>
      cases h' with
      | part _ others => exact .part _ _
      | cons _ later => exact .cons choice (ih later)

theorem irrefl : ¬Earlier choices choices := fun h => h.asymm h

end Earlier

/-- Whether choices are others or are tried before them. -/
def NotLater (choices others : List Bool) : Prop := choices = others ∨ Earlier choices others

namespace NotLater

variable {choices others more rest : List Bool}

@[refl] theorem refl (choices : List Bool) : NotLater choices choices := .inl rfl

theorem trans (h : NotLater choices others) (h' : NotLater others more) :
    NotLater choices more := by
  rcases h with rfl | h
  · exact h'
  · rcases h' with rfl | h'
    · exact .inr h
    · exact .inr (h.trans h')

theorem append (h : NotLater choices others) (h' : NotLater more rest) :
    NotLater (choices ++ more) (others ++ rest) := by
  rcases h with rfl | h
  · rcases h' with rfl | h'
    · exact .inl rfl
    · exact .inr (h'.prepend choices)
  · exact .inr (h.append more rest)

end NotLater

/-- **Whether two lists of choices are in the same order as two others:** they are the same here and
there, or the same one is tried first. -/
def SameOrder (a b a' b' : List Bool) : Prop :=
  a = b ∧ a' = b' ∨ Earlier a b ∧ Earlier a' b' ∨ Earlier b a ∧ Earlier b' a'

namespace SameOrder

variable {a b a' b' a'' b'' c d c' d' : List Bool}

theorem notLater (h : SameOrder a b a' b') (hab : NotLater a' b') : NotLater a b := by
  rcases h with ⟨rfl, rfl⟩ | ⟨h, -⟩ | ⟨-, h⟩
  · rfl
  · exact .inr h
  · rcases hab with rfl | hab
    · exact absurd h Earlier.irrefl
    · exact absurd h hab.asymm

theorem earlier (h : SameOrder a b a' b') (hab : Earlier a' b') : Earlier a b := by
  rcases h with ⟨rfl, rfl⟩ | ⟨h, -⟩ | ⟨-, h⟩
  · exact absurd hab Earlier.irrefl
  · exact h
  · exact absurd h hab.asymm

theorem trans (h : SameOrder a b a' b') (h' : SameOrder a' b' a'' b'') :
    SameOrder a b a'' b'' := by
  rcases h' with ⟨rfl, rfl⟩ | ⟨hab, h'⟩ | ⟨hba, h'⟩
  · rcases h with ⟨rfl, -⟩ | ⟨-, h⟩ | ⟨-, h⟩
    · exact .inl ⟨rfl, rfl⟩
    · exact absurd h Earlier.irrefl
    · exact absurd h Earlier.irrefl
  · exact .inr (.inl ⟨h.earlier hab, h'⟩)
  · rcases h with ⟨-, rfl⟩ | ⟨-, h⟩ | ⟨h, -⟩
    · exact absurd hba Earlier.irrefl
    · exact absurd h hba.asymm
    · exact .inr (.inr ⟨h, h'⟩)

/-- The same beginning everywhere. -/
theorem prepend (h : SameOrder a b a' b') (first first' : List Bool) :
    SameOrder (first ++ a) (first ++ b) (first' ++ a') (first' ++ b') := by
  rcases h with ⟨rfl, rfl⟩ | ⟨h, h'⟩ | ⟨h, h'⟩
  · exact .inl ⟨rfl, rfl⟩
  · exact .inr (.inl ⟨h.prepend first, h'.prepend first'⟩)
  · exact .inr (.inr ⟨h.prepend first, h'.prepend first'⟩)

/-- What follows does not matter where choices part. -/
theorem append (h : SameOrder a b a' b') (hne : a ≠ b) (c d c' d' : List Bool) :
    SameOrder (a ++ c) (b ++ d) (a' ++ c') (b' ++ d') := by
  rcases h with ⟨rfl, -⟩ | ⟨h, h'⟩ | ⟨h, h'⟩
  · exact absurd rfl hne
  · exact .inr (.inl ⟨h.append c d, h'.append c' d'⟩)
  · exact .inr (.inr ⟨h.append d c, h'.append d' c'⟩)

end SameOrder

/-! ### Ways through instructions -/

/-- A way through instructions: where it starts and stops in the text, with its spots, its choices
and what is remembered on it. -/
structure Passage where
  start : Nat
  spots : List Spot
  choices : List Bool
  saves : List Save
  stop : Nat

/-- **Whether instructions are gone through on a way** from their first place to the place behind
them, without coming to a spot twice. -/
structure Passage.Through (p : Passage) (code : List Instr) (text : List Char) : Prop where
  trace : Trace code text (0, p.start) p.spots p.choices p.saves (code.length, p.stop)
  nodup : p.spots.Nodup

/-- **Whether two ways get in each other's way:** they cannot both be part of one way. -/
def Passage.Meets (p q : Passage) : Prop :=
  p.start = q.start ∨ p.stop = q.stop ∨ ∃ s ∈ p.spots, s ∈ q.spots

section

variable {code : List Instr} {text : List Char} {a b b' : Spot} {spots spots' : List Spot}
  {choices choices' : List Bool} {saves saves' : List Save}

/-- **Two steps from one spot** are the same, or they part at a fork. -/
theorem Turn.compare (h : Turn code text a choices saves b)
    (h' : Turn code text a choices' saves' b') :
    (choices = choices' ∧ saves = saves' ∧ b = b') ∨ Earlier choices choices' ∨
      Earlier choices' choices := by
  cases h with
  | plain step single =>
      obtain ⟨rfl, step'⟩ := (turn_iff_step single).1 h'
      refine .inl ⟨rfl, ?_⟩
      cases step <;> cases step' <;> grind [Instr.reads]
  | first i hcode =>
      obtain ⟨rfl, ⟨rfl, rfl⟩ | ⟨rfl, rfl⟩⟩ := (turn_fork hcode).1 h'
      · exact .inl ⟨rfl, rfl, rfl⟩
      · exact .inr (.inl (.part [] []))
  | second i hcode =>
      obtain ⟨rfl, ⟨rfl, rfl⟩ | ⟨rfl, rfl⟩⟩ := (turn_fork hcode).1 h'
      · exact .inr (.inr (.part [] []))
      · exact .inl ⟨rfl, rfl, rfl⟩

theorem not_turn_of_length_le (h : code.length ≤ a.1) : ¬Turn code text a choices saves b :=
  not_turn_none (List.getElem?_eq_none h)

/-- **Two ways from one spot that leave the instructions** are the same, or they part at a fork. -/
theorem Trace.compare (h : Trace code text a spots choices saves b)
    (h' : Trace code text a spots' choices' saves' b') (hb : code.length ≤ b.1)
    (hb' : code.length ≤ b'.1) :
    (spots = spots' ∧ choices = choices' ∧ saves = saves' ∧ b = b') ∨ Earlier choices choices' ∨
      Earlier choices' choices := by
  induction h generalizing spots' choices' saves' with
  | nil a =>
      cases h' with
      | nil => exact .inl ⟨rfl, rfl, rfl, rfl⟩
      | cons turn => exact absurd turn (not_turn_of_length_le hb)
  | @cons a next _ spots choice more save rest turn later ih =>
      cases h' with
      | nil => exact absurd turn (not_turn_of_length_le hb')
      | cons turn' later' =>
          rcases turn.compare turn' with ⟨rfl, rfl, rfl⟩ | hearlier | hearlier
          · rcases ih later' hb with ⟨rfl, rfl, rfl, rfl⟩ | hearlier | hearlier
            · exact .inl ⟨rfl, rfl, rfl, rfl⟩
            · exact .inr (.inl (hearlier.prepend choice))
            · exact .inr (.inr (hearlier.prepend choice))
          · exact .inr (.inl (hearlier.append ..))
          · exact .inr (.inr (hearlier.append ..))

end

namespace Passage

variable {code : List Instr} {text : List Char} {p q : Passage}

theorem Meets.symm (h : p.Meets q) : q.Meets p := by
  rcases h with h | h | ⟨s, hp, hq⟩
  · exact .inl h.symm
  · exact .inr (.inl h.symm)
  · exact .inr (.inr ⟨s, hq, hp⟩)

theorem meets_comm : p.Meets q ↔ q.Meets p := ⟨Meets.symm, Meets.symm⟩

/-- **Two ways through instructions from one place of the text** are the same, or they part at a
fork. -/
theorem Through.compare (hp : p.Through code text) (hq : q.Through code text)
    (hstart : p.start = q.start) :
    p = q ∨ Earlier p.choices q.choices ∨ Earlier q.choices p.choices := by
  have htrace := hq.trace
  rw [← hstart] at htrace
  rcases hp.trace.compare htrace (Nat.le_refl _) (Nat.le_refl _) with ⟨h1, h2, h3, h4⟩ | h
  · left
    cases p
    cases q
    simp_all
  · exact .inr h

/-- Ways that start at the same place and make the same choices are the same. -/
theorem Through.eq_of_choices (hp : p.Through code text) (hq : q.Through code text)
    (hstart : p.start = q.start) (hchoices : p.choices = q.choices) : p = q := by
  rcases hp.compare hq hstart with heq | h | h
  · exact heq
  · exact absurd (hchoices ▸ h) Earlier.irrefl
  · exact absurd (hchoices ▸ h) Earlier.irrefl

end Passage

/-! ### What is remembered, under other numbers -/

/-- What is remembered under the numbers that are kept; the others are left out. -/
def keep (kept : Nat → Option Nat) (saves : List Save) : List Save :=
  saves.filterMap fun save => (kept save.1).map fun slot => (slot, save.2)

section

variable {kept kept' : Nat → Option Nat} {saves rest : List Save}

@[simp] theorem keep_nil : keep kept [] = [] := rfl

@[simp] theorem keep_append : keep kept (saves ++ rest) = keep kept saves ++ keep kept rest :=
  List.filterMap_append ..

@[simp] theorem keep_some : keep some saves = saves := by
  simp [keep]

theorem keep_keep :
    keep kept (keep kept' saves) = keep (fun slot => (kept' slot).bind kept) saves := by
  unfold keep
  rw [List.filterMap_filterMap]
  congr 1
  funext save
  cases h : kept' save.1 <;> simp [h]

end

/-! ### Instructions in the place of others -/

/-- **Ways through instructions that correspond to ways through others** along a text, under other
numbers.  `first` relates a way to the first one of those that correspond to the same. -/
structure Corresponds (text : List Char) (kept : Nat → Option Nat) (code code' : List Instr)
    (rel first : Passage → Passage → Prop) : Prop where
  through {p p' : Passage} : rel p p' → p.Through code text ∧ p'.Through code' text
  start {p p' : Passage} : rel p p' → p.start = p'.start
  stop {p p' : Passage} : rel p p' → p.stop = p'.stop
  saves {p p' : Passage} : rel p p' → p.saves = keep kept p'.saves
  meets {p p' q q' : Passage} : rel p p' → rel q q' → (p.Meets q ↔ p'.Meets q')
  related {p p' : Passage} : first p p' → rel p p'
  /-- A way corresponds to another one, and so does the first one of those that do. -/
  image {p : Passage} : p.Through code text →
    ∃ p' p₀, rel p p' ∧ first p₀ p' ∧ NotLater p₀.choices p.choices
  lift {p' : Passage} : p'.Through code' text → ∃ p, first p p'
  order {p p' q q' : Passage} : first p p' → first q q' → p.start = q.start →
    SameOrder p.choices q.choices p'.choices q'.choices

/-- **Whether instructions can stand in the place of others,** under other numbers. -/
def Replaces (kept : Nat → Option Nat) (code code' : List Instr) : Prop :=
  ∀ text, ∃ rel first, Corresponds text kept code code' rel first

namespace Corresponds

variable {text : List Char} {kept kept' : Nat → Option Nat} {code code' code'' : List Instr}
  {rel first rel' first' : Passage → Passage → Prop} {p p' q q' : Passage}

/-- Ways that correspond to each other one by one. -/
theorem of_unique (rel : Passage → Passage → Prop)
    (through : ∀ {p p'}, rel p p' → p.Through code text ∧ p'.Through code' text)
    (start : ∀ {p p'}, rel p p' → p.start = p'.start)
    (stop : ∀ {p p'}, rel p p' → p.stop = p'.stop)
    (saves : ∀ {p p'}, rel p p' → p.saves = keep kept p'.saves)
    (meets : ∀ {p p' q q'}, rel p p' → rel q q' → (p.Meets q ↔ p'.Meets q'))
    (image : ∀ {p}, p.Through code text → ∃ p', rel p p')
    (lift : ∀ {p'}, p'.Through code' text → ∃ p, rel p p')
    (order : ∀ {p p' q q'}, rel p p' → rel q q' → p.start = q.start →
      SameOrder p.choices q.choices p'.choices q'.choices) :
    Corresponds text kept code code' rel rel where
  through := through
  start := start
  stop := stop
  saves := saves
  meets := meets
  related := id
  image hp := by
    obtain ⟨p', hrel⟩ := image hp
    exact ⟨p', _, hrel, hrel, .refl _⟩
  lift := lift
  order := order

theorem trans (h : Corresponds text kept code code' rel first)
    (h' : Corresponds text kept' code' code'' rel' first') :
    Corresponds text (fun slot => (kept' slot).bind kept) code code''
      (fun p p'' => ∃ p', rel p p' ∧ rel' p' p'')
      (fun p p'' => ∃ p', first p p' ∧ first' p' p'') where
  through := by
    rintro p p'' ⟨p', hrel, hrel'⟩
    exact ⟨(h.through hrel).1, (h'.through hrel').2⟩
  start := by
    rintro p p'' ⟨p', hrel, hrel'⟩
    exact (h.start hrel).trans (h'.start hrel')
  stop := by
    rintro p p'' ⟨p', hrel, hrel'⟩
    exact (h.stop hrel).trans (h'.stop hrel')
  saves := by
    rintro p p'' ⟨p', hrel, hrel'⟩
    rw [h.saves hrel, h'.saves hrel', keep_keep]
  meets := by
    rintro p p'' q q'' ⟨p', hp, hp'⟩ ⟨q', hq, hq'⟩
    exact (h.meets hp hq).trans (h'.meets hp' hq')
  related := by
    rintro p p'' ⟨p', hfirst, hfirst'⟩
    exact ⟨p', h.related hfirst, h'.related hfirst'⟩
  image := by
    intro p hp
    obtain ⟨p', p₀, hrel, hp₀, hle⟩ := h.image hp
    obtain ⟨p'', p'₀, hrel', hp'₀, hle'⟩ := h'.image (h.through hrel).2
    obtain ⟨p₁, hp₁⟩ := h.lift (h'.through (h'.related hp'₀)).1
    have hstart : p₁.start = p₀.start := by
      rw [h.start (h.related hp₁), h.start (h.related hp₀), h'.start (h'.related hp'₀),
        h'.start hrel']
    exact ⟨p'', p₁, ⟨p', hrel, hrel'⟩, ⟨p'₀, hp₁, hp'₀⟩,
      ((h.order hp₁ hp₀ hstart).notLater hle').trans hle⟩
  lift := by
    intro p'' hp''
    obtain ⟨p', hp'⟩ := h'.lift hp''
    obtain ⟨p, hp⟩ := h.lift (h'.through (h'.related hp')).1
    exact ⟨p, p', hp, hp'⟩
  order := by
    rintro p p'' q q'' ⟨p', hp, hp'⟩ ⟨q', hq, hq'⟩ hstart
    refine (h.order hp hq hstart).trans (h'.order hp' hq' ?_)
    rw [← h.start (h.related hp), ← h.start (h.related hq), hstart]

end Corresponds

namespace Replaces

variable {text : List Char} {kept kept' : Nat → Option Nat} {code code' code'' : List Instr}

/-- Instructions stand in their own place. -/
theorem refl (code : List Instr) : Replaces some code code := by
  intro text
  refine ⟨_, _, Corresponds.of_unique (fun p p' => p = p' ∧ p.Through code text)
    ?_ ?_ ?_ ?_ ?_ ?_ ?_ ?_⟩
  · rintro p _ ⟨rfl, hp⟩
    exact ⟨hp, hp⟩
  · rintro p _ ⟨rfl, hp⟩
    rfl
  · rintro p _ ⟨rfl, hp⟩
    rfl
  · rintro p _ ⟨rfl, hp⟩
    exact keep_some.symm
  · rintro p _ q _ ⟨rfl, hp⟩ ⟨rfl, hq⟩
    rfl
  · intro p hp
    exact ⟨p, rfl, hp⟩
  · intro p hp
    exact ⟨p, rfl, hp⟩
  · rintro p _ q _ ⟨rfl, hp⟩ ⟨rfl, hq⟩ hstart
    rcases hp.compare hq hstart with rfl | h | h
    · exact .inl ⟨rfl, rfl⟩
    · exact .inr (.inl ⟨h, h⟩)
    · exact .inr (.inr ⟨h, h⟩)

/-- **Instructions in the place of those that stand in the place of others.** -/
theorem trans (h : Replaces kept code code') (h' : Replaces kept' code' code'') :
    Replaces (fun slot => (kept' slot).bind kept) code code'' := by
  intro text
  obtain ⟨rel, first, h⟩ := h text
  obtain ⟨rel', first', h'⟩ := h' text
  exact ⟨_, _, h.trans h'⟩

theorem trans_some (h : Replaces kept code code') (h' : Replaces some code' code'') :
    Replaces kept code code'' := by
  simpa using h.trans h'

end Replaces

/-! ### The preferred way -/

/-- The ways through instructions from a place of the text to one of some places, with their
choices and what is remembered on them. -/
def Leading (code : List Instr) (text : List Char) (i : Nat) (stops : Nat → Prop)
    (choices : List Bool) (saves : List Save) : Prop :=
  ∃ p : Passage, p.Through code text ∧ p.start = i ∧ stops p.stop ∧ p.choices = choices ∧
    p.saves = saves

/-- **The preferred way through instructions in the place of others** does what the preferred way
through the others does. -/
theorem Replaces.preferred {kept : Nat → Option Nat} {code code' : List Instr}
    (h : Replaces kept code code') {text : List Char} {i : Nat} {stops : Nat → Prop}
    {saves : List Save} (hsaves : Preferred (Leading code' text i stops) saves) :
    Preferred (Leading code text i stops) (keep kept saves) := by
  obtain ⟨rel, first, h⟩ := h text
  obtain ⟨_, ⟨p', hp', rfl, hstop, rfl, rfl⟩, hbest⟩ := hsaves
  obtain ⟨p, hp⟩ := h.lift hp'
  have hrel := h.related hp
  refine ⟨p.choices, ⟨p, (h.through hrel).1, h.start hrel, h.stop hrel ▸ hstop, rfl,
    h.saves hrel⟩, ?_⟩
  rintro _ _ ⟨q, hq, hstart, hqstop, rfl, rfl⟩
  -- The first way that corresponds to the same is not tried before the preferred one.
  obtain ⟨q', q₀, hqrel, hq₀, hle⟩ := h.image hq
  have hq'start : q'.start = p'.start := (h.start hqrel).symm.trans hstart
  have hpq₀ : p.start = q₀.start := by
    rw [h.start hrel, h.start (h.related hq₀), hq'start]
  have horder := h.order hp hq₀ hpq₀
  have hp'q' : NotLater p'.choices q'.choices := by
    rcases hbest _ _ ⟨q', (h.through hqrel).2, hq'start, h.stop hqrel ▸ hqstop, rfl, rfl⟩ with
      ⟨heq, -⟩ | hearlier
    · exact .inl heq.symm
    · exact .inr hearlier
  rcases (horder.notLater hp'q').trans hle with heq | hearlier
  · have hpq : p = q :=
      (h.through hrel).1.eq_of_choices hq ((h.start hrel).trans hstart.symm) heq
    subst hpq
    exact .inl ⟨rfl, h.saves hrel⟩
  · exact .inr hearlier

end ParamTemplate.Regex
