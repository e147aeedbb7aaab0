/-
**Ways through choices, concatenations and groups.**

A way through a choice is a way through one of its branches, behind the choice that is made at the
fork; a way through a concatenation is a way through the one part and a way through the other.  Two
of them get in each other's way as ways through the parts do.

From this follow the rules by which an expression may be written otherwise.

Main definitions:

* `Regex.Expr.inLeft`, `Regex.Expr.inRight` — ways through a choice;
* `Regex.Passage.andThen` — a way through a concatenation;
* `Regex.Passage.within` — a way through a group.

Main results:

* `Regex.Expr.through_alt_iff`, `Regex.Expr.through_cat_iff`, `Regex.Expr.through_group_iff`;
* `Regex.Expr.Becomes.group_lost` — a group whose number is not kept;
* `Regex.Expr.Becomes.alt_assoc` — choices of choices.
-/

import ParamTemplate.Proofs.Regex.Substituting

set_option autoImplicit false

namespace ParamTemplate.Regex.Expr

variable {left right body e e' : Expr} {text : List Char} {p q p' q' : Passage}
  {kept : Nat → Option Nat} {index : Nat}

/-! ### Choices -/

/-- The parts of a choice. -/
def altParts (left right : Expr) : List Part :=
  [.single (.fork 1 3), .region (left.code 0), .single (.jump 4), .region (right.code 0)]

theorem wellFormed_altParts : WellFormed (altParts left right) := by
  simp [WellFormed, altParts]

/-- The legs of a way through the first branch. -/
def leftLegs (p : Passage) : List (Nat × Passage) :=
  [(0, still p.start [false] []), (1, p), (2, still p.stop [] [])]

/-- The legs of a way through the second branch. -/
def rightLegs (p : Passage) : List (Nat × Passage) := [(0, still p.start [true] []), (3, p)]

/-- **A way through the first branch.** -/
def inLeft (left right : Expr) (p : Passage) : Passage :=
  joined (altParts left right) p.start (leftLegs p) p.stop

/-- **A way through the second branch.** -/
def inRight (left right : Expr) (p : Passage) : Passage :=
  joined (altParts left right) p.start (rightLegs p) p.stop

@[simp] theorem start_inLeft : (inLeft left right p).start = p.start := rfl

@[simp] theorem stop_inLeft : (inLeft left right p).stop = p.stop := rfl

@[simp] theorem choices_inLeft : (inLeft left right p).choices = false :: p.choices := by
  simp [inLeft, joined, choicesOf, leftLegs, still]

@[simp] theorem saves_inLeft : (inLeft left right p).saves = p.saves := by
  simp [inLeft, joined, savesOf, leftLegs, still]

@[simp] theorem start_inRight : (inRight left right p).start = p.start := rfl

@[simp] theorem stop_inRight : (inRight left right p).stop = p.stop := rfl

@[simp] theorem choices_inRight : (inRight left right p).choices = true :: p.choices := by
  simp [inRight, joined, choicesOf, rightLegs, still]

@[simp] theorem saves_inRight : (inRight left right p).saves = p.saves := by
  simp [inRight, joined, savesOf, rightLegs, still]

theorem course_leftLegs (right : Expr) (hp : p.Through (left.code 0) text) :
    Course (altParts left right) text (0, p.start) (leftLegs p) (4, p.stop) :=
  .cons ((leg_fork_iff rfl).2 (.inl ⟨rfl, rfl⟩)) (.cons (.region rfl hp)
    (.cons ((leg_jump_iff rfl).2 ⟨rfl, rfl⟩) (.nil _)))

theorem course_rightLegs (left : Expr) (hp : p.Through (right.code 0) text) :
    Course (altParts left right) text (0, p.start) (rightLegs p) (4, p.stop) :=
  .cons ((leg_fork_iff rfl).2 (.inr ⟨rfl, rfl⟩)) (.cons (.region rfl hp) (.nil _))

theorem cases_of_course_altParts {i j : Nat} {legs : List (Nat × Passage)}
    (h : Course (altParts left right) text (0, i) legs (4, j)) :
    (∃ p, p.Through (left.code 0) text ∧ p.start = i ∧ p.stop = j ∧ legs = leftLegs p) ∨
      ∃ p, p.Through (right.code 0) text ∧ p.start = i ∧ p.stop = j ∧ legs = rightLegs p := by
  obtain ⟨_, _, rest, hfork, hrest, rfl⟩ := (course_cons_iff (by simp [altParts])).1 h
  have fork : (altParts left right)[0]? = some (.single (.fork 1 3)) := rfl
  rcases (leg_fork_iff fork).1 hfork with ⟨rfl, rfl⟩ | ⟨rfl, rfl⟩
  · obtain ⟨p, _, rest, hregion, hrest, rfl⟩ := (course_cons_iff (by simp [altParts])).1 hrest
    obtain ⟨hp, rfl, rfl⟩ := (leg_region_iff rfl).1 hregion
    obtain ⟨_, _, rest, hjump, hrest, rfl⟩ := (course_cons_iff (by simp [altParts])).1 hrest
    obtain ⟨rfl, rfl⟩ := (leg_jump_iff rfl).1 hjump
    obtain ⟨rfl, rfl⟩ := course_length_iff.1 hrest
    exact .inl ⟨p, hp, rfl, rfl, rfl⟩
  · obtain ⟨p, _, rest, hregion, hrest, rfl⟩ := (course_cons_iff (by simp [altParts])).1 hrest
    obtain ⟨hp, rfl, rfl⟩ := (leg_region_iff rfl).1 hregion
    obtain ⟨rfl, rfl⟩ := course_length_iff.1 hrest
    exact .inr ⟨p, hp, rfl, rfl, rfl⟩

/-- **A way through a choice** is a way through one of its branches. -/
theorem through_alt_iff : p.Through ((alt left right).code 0) text ↔
    (∃ q, q.Through (left.code 0) text ∧ p = inLeft left right q) ∨
      ∃ q, q.Through (right.code 0) text ∧ p = inRight left right q := by
  rw [code_alt, ← altParts, through_layout_iff wellFormed_altParts]
  constructor
  · rintro ⟨legs, hcourse, -, hp⟩
    rcases cases_of_course_altParts hcourse with ⟨q, hq, hstart, hstop, rfl⟩ |
      ⟨q, hq, hstart, hstop, rfl⟩
    · exact .inl ⟨q, hq, by rw [hp, ← hstart, ← hstop]; rfl⟩
    · exact .inr ⟨q, hq, by rw [hp, ← hstart, ← hstop]; rfl⟩
  · rintro (⟨q, hq, rfl⟩ | ⟨q, hq, rfl⟩)
    · exact ⟨leftLegs q, course_leftLegs right hq, by simp [Apart, leftLegs], rfl⟩
    · exact ⟨rightLegs q, course_rightLegs left hq, by simp [Apart, rightLegs], rfl⟩

@[simp] theorem meets_still {i j : Nat} {choices choices' : List Bool}
    {saves saves' : List Save} : (still i choices saves).Meets (still j choices' saves') ↔ i = j := by
  simp [Passage.Meets, still]

section

variable (hp : p.Through (left.code 0) text) (hp' : p'.Through (left.code 0) text)
  (hq : q.Through (right.code 0) text) (hq' : q'.Through (right.code 0) text)

include hp hp' in
theorem meets_inLeft : (inLeft left right p).Meets (inLeft left right p') ↔ p.Meets p' := by
  have hstart : p.start = p'.start → p.Meets p' := .inl
  have hstop : p.stop = p'.stop → p.Meets p' := fun h => .inr (.inl h)
  rw [inLeft, inLeft, meets_joined_iff (course_leftLegs right hp) (course_leftLegs right hp')]
  simp [leftLegs]
  grind

include hq hq' in
theorem meets_inRight : (inRight left right q).Meets (inRight left right q') ↔ q.Meets q' := by
  have hstart : q.start = q'.start → q.Meets q' := .inl
  have hstop : q.stop = q'.stop → q.Meets q' := fun h => .inr (.inl h)
  rw [inRight, inRight, meets_joined_iff (course_rightLegs left hq) (course_rightLegs left hq')]
  simp [rightLegs]
  grind

include hp hq in
theorem meets_inLeft_inRight : (inLeft left right p).Meets (inRight left right q) ↔
    p.start = q.start ∨ p.stop = q.stop := by
  rw [inLeft, inRight, meets_joined_iff (course_leftLegs right hp) (course_rightLegs left hq)]
  simp [leftLegs, rightLegs]
  tauto

end

/-! ### Concatenations -/

/-- The parts of a concatenation. -/
def catParts (left right : Expr) : List Part := [.region (left.code 0), .region (right.code 0)]

theorem wellFormed_catParts : WellFormed (catParts left right) := by
  simp [WellFormed, catParts]

/-- **A way through one part of a concatenation and one through the other.** -/
def andThen (left right : Expr) (p q : Passage) : Passage :=
  joined (catParts left right) p.start [(0, p), (1, q)] q.stop

@[simp] theorem start_andThen : (andThen left right p q).start = p.start := rfl

@[simp] theorem stop_andThen : (andThen left right p q).stop = q.stop := rfl

@[simp] theorem choices_andThen : (andThen left right p q).choices = p.choices ++ q.choices := by
  simp [andThen, joined, choicesOf]

@[simp] theorem saves_andThen : (andThen left right p q).saves = p.saves ++ q.saves := by
  simp [andThen, joined, savesOf]

theorem course_catParts (hp : p.Through (left.code 0) text) (hq : q.Through (right.code 0) text)
    (hmiddle : p.stop = q.start) :
    Course (catParts left right) text (0, p.start) [(0, p), (1, q)] (2, q.stop) :=
  .cons (.region rfl hp) (hmiddle ▸ .cons (.region rfl hq) (.nil _))

/-- **A way through a concatenation** is a way through both parts. -/
theorem through_cat_iff {r : Passage} : r.Through ((cat left right).code 0) text ↔
    ∃ p q, p.Through (left.code 0) text ∧ q.Through (right.code 0) text ∧ p.stop = q.start ∧
      r = andThen left right p q := by
  rw [code_cat, ← catParts, through_layout_iff wellFormed_catParts]
  constructor
  · rintro ⟨legs, hcourse, -, hr⟩
    obtain ⟨p, _, rest, hregion, hrest, rfl⟩ := (course_cons_iff (by simp [catParts])).1 hcourse
    obtain ⟨hp, hstart, rfl⟩ := (leg_region_iff rfl).1 hregion
    obtain ⟨q, _, rest, hregion, hrest, rfl⟩ := (course_cons_iff (by simp [catParts])).1 hrest
    obtain ⟨hq, hmiddle, rfl⟩ := (leg_region_iff rfl).1 hregion
    obtain ⟨rfl, hstop⟩ := course_length_iff.1 hrest
    exact ⟨p, q, hp, hq, hmiddle.symm, by rw [hr, ← hstart, ← hstop]; rfl⟩
  · rintro ⟨p, q, hp, hq, hmiddle, rfl⟩
    exact ⟨[(0, p), (1, q)], course_catParts hp hq hmiddle, by simp [Apart], rfl⟩

theorem meets_andThen (hp : p.Through (left.code 0) text) (hq : q.Through (right.code 0) text)
    (hmiddle : p.stop = q.start) (hp' : p'.Through (left.code 0) text)
    (hq' : q'.Through (right.code 0) text) (hmiddle' : p'.stop = q'.start) :
    (andThen left right p q).Meets (andThen left right p' q') ↔ p.Meets p' ∨ q.Meets q' := by
  have hstart : p.start = p'.start → p.Meets p' := .inl
  have hstop : q.stop = q'.stop → q.Meets q' := fun h => .inr (.inl h)
  rw [andThen, andThen, meets_joined_iff (course_catParts hp hq hmiddle)
    (course_catParts hp' hq' hmiddle')]
  simp
  tauto

/-! ### Groups -/

/-- The parts of a group. -/
def groupParts (index : Nat) (body : Expr) : List Part :=
  [.single (.save (2 * index)), .region (body.code 0), .single (.save (2 * index + 1))]

theorem wellFormed_groupParts : WellFormed (groupParts index body) := by
  simp [WellFormed, groupParts]

/-- The legs of a way through a group. -/
def groupLegs (index : Nat) (p : Passage) : List (Nat × Passage) :=
  [(0, still p.start [] [(2 * index, p.start)]), (1, p),
    (2, still p.stop [] [(2 * index + 1, p.stop)])]

/-- **A way through a group.** -/
def within (index : Nat) (body : Expr) (p : Passage) : Passage :=
  joined (groupParts index body) p.start (groupLegs index p) p.stop

@[simp] theorem start_within : (within index body p).start = p.start := rfl

@[simp] theorem stop_within : (within index body p).stop = p.stop := rfl

@[simp] theorem choices_within : (within index body p).choices = p.choices := by
  simp [within, joined, choicesOf, groupLegs, still]

@[simp] theorem saves_within : (within index body p).saves =
    (2 * index, p.start) :: p.saves ++ [(2 * index + 1, p.stop)] := by
  simp [within, joined, savesOf, groupLegs, still]

theorem course_groupLegs (hp : p.Through (body.code 0) text) :
    Course (groupParts index body) text (0, p.start) (groupLegs index p) (3, p.stop) :=
  .cons ((leg_save_iff rfl).2 ⟨rfl, rfl⟩) (.cons (.region rfl hp)
    (.cons ((leg_save_iff rfl).2 ⟨rfl, rfl⟩) (.nil _)))

/-- **A way through a group** is a way through its body. -/
theorem through_group_iff : q.Through ((group index body).code 0) text ↔
    ∃ p, p.Through (body.code 0) text ∧ q = within index body p := by
  rw [code_group, ← groupParts, through_layout_iff wellFormed_groupParts]
  constructor
  · rintro ⟨legs, hcourse, -, hq⟩
    obtain ⟨_, _, rest, hsave, hrest, rfl⟩ := (course_cons_iff (by simp [groupParts])).1 hcourse
    obtain ⟨rfl, rfl⟩ := (leg_save_iff rfl).1 hsave
    obtain ⟨p, _, rest, hregion, hrest, rfl⟩ := (course_cons_iff (by simp [groupParts])).1 hrest
    obtain ⟨hp, hstart, rfl⟩ := (leg_region_iff rfl).1 hregion
    obtain ⟨_, _, rest, hsave, hrest, rfl⟩ := (course_cons_iff (by simp [groupParts])).1 hrest
    obtain ⟨rfl, rfl⟩ := (leg_save_iff rfl).1 hsave
    obtain ⟨rfl, hstop⟩ := course_length_iff.1 hrest
    exact ⟨p, hp, by rw [hq, ← hstart, ← hstop]; rfl⟩
  · rintro ⟨p, hp, rfl⟩
    exact ⟨groupLegs index p, course_groupLegs hp, by simp [Apart, groupLegs], rfl⟩

theorem meets_within (hp : p.Through (body.code 0) text) (hp' : p'.Through (body.code 0) text) :
    (within index body p).Meets (within index body p') ↔ p.Meets p' := by
  have hstart : p.start = p'.start → p.Meets p' := .inl
  have hstop : p.stop = p'.stop → p.Meets p' := fun h => .inr (.inl h)
  rw [within, within, meets_joined_iff (course_groupLegs hp) (course_groupLegs hp')]
  simp [groupLegs]
  grind

namespace Becomes

/-- **A group whose number is not kept** may stand around what is in the place of another. -/
theorem group_lost (hstart : kept (2 * index) = none) (hstop : kept (2 * index + 1) = none)
    (h : Becomes kept e e') : Becomes kept e (.group index e') := by
  intro text
  obtain ⟨rel, first, h⟩ := h text
  refine ⟨fun p q => ∃ p', rel p p' ∧ q = within index e' p',
    fun p q => ∃ p', first p p' ∧ q = within index e' p', ?_, ?_, ?_, ?_, ?_, ?_, ?_, ?_, ?_⟩
  · rintro p _ ⟨p', hrel, rfl⟩
    exact ⟨(h.through hrel).1, through_group_iff.2 ⟨p', (h.through hrel).2, rfl⟩⟩
  · rintro p _ ⟨p', hrel, rfl⟩
    simpa using h.start hrel
  · rintro p _ ⟨p', hrel, rfl⟩
    simpa using h.stop hrel
  · rintro p _ ⟨p', hrel, rfl⟩
    simp [h.saves hrel, keep, hstart, hstop]
  · rintro p _ q _ ⟨p', hp, rfl⟩ ⟨q', hq, rfl⟩
    rw [h.meets hp hq, meets_within (h.through hp).2 (h.through hq).2]
  · rintro p _ ⟨p', hfirst, rfl⟩
    exact ⟨p', h.related hfirst, rfl⟩
  · intro p hp
    obtain ⟨p', p₀, hrel, hfirst, hle⟩ := h.image hp
    exact ⟨_, p₀, ⟨p', hrel, rfl⟩, ⟨p', hfirst, rfl⟩, hle⟩
  · intro q hq
    obtain ⟨p', hp', rfl⟩ := through_group_iff.1 hq
    obtain ⟨p, hp⟩ := h.lift hp'
    exact ⟨p, p', hp, rfl⟩
  · rintro p _ q _ ⟨p', hp, rfl⟩ ⟨q', hq, rfl⟩ hstart
    simpa using h.order hp hq hstart

end Becomes

end ParamTemplate.Regex.Expr
