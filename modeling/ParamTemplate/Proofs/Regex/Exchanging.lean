/-
**Parts in the place of others.**

What can stand in the place of a region can stand in its place also when the region is a part of
longer instructions, and this holds of all parts at once: the legs of a course are replaced one by
one.

Main definitions:

* `Regex.PartReplaces` — a part can stand in the place of another;
* `Regex.LegsCorrespond` — legs through a part that correspond to legs through the one in its place.

Main results:

* `Regex.Course.image`, `Regex.Course.lift`, `Regex.Course.order` — what holds of legs holds of
  courses;
* `Regex.Replaces.layout` — **parts that stand in the place of others** make instructions that do.
-/

import ParamTemplate.Proofs.Regex.Parts

set_option autoImplicit false

namespace ParamTemplate.Regex

/-! ### Parts in the place of others -/

section

variable {code code' : List Instr} {text : List Char} {a b : Spot} {choices : List Bool}
  {saves : List Save}

/-- A step depends on the instruction at hand only. -/
theorem Turn.of_getElem?_eq (h : Turn code text a choices saves b)
    (heq : code'[a.1]? = code[a.1]?) : Turn code' text a choices saves b := by
  cases h with
  | plain step single =>
      refine .plain ?_ fun q r => heq ▸ single q r
      cases step with
      | read hinstr hc hreads => exact .read (heq.trans hinstr) hc hreads
      | look hinstr hlook => exact .look (heq.trans hinstr) hlook
      | save i hinstr => exact .save i (heq.trans hinstr)
      | first i hinstr => exact absurd hinstr (single _ _)
      | second i hinstr => exact absurd hinstr (single _ _)
      | jump i hinstr => exact .jump i (heq.trans hinstr)
  | first i hinstr => exact .first i (heq.trans hinstr)
  | second i hinstr => exact .second i (heq.trans hinstr)

theorem Turn.saves_eq_nil {instr : Instr} (h : Turn code text a choices saves b)
    (hinstr : code[a.1]? = some instr) (hsave : ∀ slot, instr ≠ .save slot) : saves = [] := by
  cases h.step with
  | save _ hslot => exact absurd (Option.some.inj (hinstr.symm.trans hslot)) (hsave _)
  | _ => rfl

end

/-- **A part in the place of another:** an instruction stands in its own place, remembering under
another number, or a region in the place of a region. -/
inductive PartReplaces (kept : Nat → Option Nat) : Part → Part → Prop where
  | single {instr : Instr} (h : ∀ slot, instr ≠ .save slot) :
      PartReplaces kept (.single instr) (.single instr)
  | save {slot slot' : Nat} (h : kept slot' = some slot) :
      PartReplaces kept (.single (.save slot)) (.single (.save slot'))
  | region {code code' : List Instr} (h : Replaces kept code code') :
      PartReplaces kept (.region code) (.region code')

/-- Legs through one of the parts that correspond to legs through the one in its place. -/
structure LegsCorrespond (text : List Char) (kept : Nat → Option Nat) (parts parts' : List Part)
    (n : Nat) (rel first : Passage → Passage → Prop) : Prop where
  start {p p' : Passage} : rel p p' → p.start = p'.start
  stop {p p' : Passage} : rel p p' → p.stop = p'.stop
  saves {p p' : Passage} : rel p p' → p.saves = keep kept p'.saves
  meets {p p' q q' : Passage} : rel p p' → rel q q' → (p.Meets q ↔ p'.Meets q')
  related {p p' : Passage} : first p p' → rel p p'
  image {p : Passage} {i : Nat} {b : Spot} : Leg parts text (n, i) p b →
    ∃ p' p₀, rel p p' ∧ first p₀ p' ∧ NotLater p₀.choices p.choices ∧
      Leg parts' text (n, i) p' b ∧ Leg parts text (n, i) p₀ b
  lift {p' : Passage} {i : Nat} {b : Spot} : Leg parts' text (n, i) p' b →
    ∃ p, first p p' ∧ Leg parts text (n, i) p b
  order {p p' q q' : Passage} : first p p' → first q q' → p.start = q.start →
    SameOrder p.choices q.choices p'.choices q'.choices

/-- Legs that are related one by one. -/
def LegsRelated (rel : Nat → Passage → Passage → Prop) (legs legs' : List (Nat × Passage)) : Prop :=
  List.Forall₂ (fun leg leg' => leg.1 = leg'.1 ∧ rel leg.1 leg.2 leg'.2) legs legs'

section

variable {text : List Char} {kept : Nat → Option Nat} {parts parts' : List Part} {n : Nat}

/-- Steps that differ at most in the number under which a place is remembered. -/
theorem legsCorrespond_single {instr instr' : Instr} (hpart : parts[n]? = some (.single instr))
    (hpart' : parts'[n]? = some (.single instr'))
    (turn : ∀ i choices b saves, Turn (steps parts) text (n, i) choices saves b ↔
      ∃ saves', saves = keep kept saves' ∧ Turn (steps parts') text (n, i) choices saves' b) :
    ∃ rel first, LegsCorrespond text kept parts parts' n rel first := by
  let rel : Passage → Passage → Prop := fun p p' =>
    p.start = p'.start ∧ p.spots = p'.spots ∧ p.choices = p'.choices ∧ p.stop = p'.stop ∧
      p.saves = keep kept p'.saves ∧ ∃ b, Leg parts text (n, p.start) p b
  have forth : ∀ {i p b}, Leg parts text (n, i) p b → ∃ p', rel p p' ∧ Leg parts' text (n, i) p' b := by
    intro i p b hleg
    have hrel : Leg parts text (n, p.start) p b := by
      rw [hleg.start]
      exact hleg
    cases hleg with
    | region hregion => cases hpart.symm.trans hregion
    | step hturn =>
        obtain ⟨saves', rfl, hturn'⟩ := (turn _ _ _ _).1 hturn
        exact ⟨⟨i, [(0, i)], _, saves', b.2⟩, ⟨rfl, rfl, rfl, rfl, rfl, b, hrel⟩, .step hturn'⟩
  have back : ∀ {i p' b}, Leg parts' text (n, i) p' b →
      ∃ p, rel p p' ∧ Leg parts text (n, i) p b := by
    intro i p' b hleg
    cases hleg with
    | region hregion => cases hpart'.symm.trans hregion
    | @step _ _ _ saves' _ hturn' =>
        have hleg := Leg.step ((turn _ _ _ _).2 ⟨_, rfl, hturn'⟩)
        exact ⟨⟨i, [(0, i)], _, keep kept saves', b.2⟩, ⟨rfl, rfl, rfl, rfl, rfl, b, hleg⟩, hleg⟩
  refine ⟨rel, rel, ⟨?_, ?_, ?_, ?_, id, ?_, back, ?_⟩⟩
  · exact fun h => h.1
  · exact fun h => h.2.2.2.1
  · exact fun h => h.2.2.2.2.1
  · rintro p p' q q' ⟨hp, hpspots, -, hpstop, -⟩ ⟨hq, hqspots, -, hqstop, -⟩
    simp only [Passage.Meets, hp, hq, hpspots, hqspots, hpstop, hqstop]
  · intro p i b hleg
    obtain ⟨p', hrel, hleg'⟩ := forth hleg
    exact ⟨p', p, hrel, hrel, .refl _, hleg', hleg⟩
  · rintro p p' q q' ⟨-, -, hpchoices, -, -, b, hp⟩ ⟨-, -, hqchoices, -, -, b', hq⟩ hstart
    rw [← hstart] at hq
    rw [← hpchoices, ← hqchoices]
    rcases hp.compare hq with ⟨rfl, -⟩ | h | h
    · exact .inl ⟨rfl, rfl⟩
    · exact .inr (.inl ⟨h, h⟩)
    · exact .inr (.inr ⟨h, h⟩)

theorem legsCorrespond_region {code code' : List Instr} {rel first : Passage → Passage → Prop}
    (hpart : parts[n]? = some (.region code)) (hpart' : parts'[n]? = some (.region code'))
    (h : Corresponds text kept code code' rel first) :
    LegsCorrespond text kept parts parts' n rel first where
  start := h.start
  stop := h.stop
  saves := h.saves
  meets := h.meets
  related := h.related
  image := by
    intro p i b hleg
    cases hleg with
    | step hturn =>
        obtain ⟨instr, hsingle⟩ := exists_part_of_turn hturn
        cases hpart.symm.trans hsingle
    | region hregion hp =>
        cases hpart.symm.trans hregion
        obtain ⟨p', p₀, hrel, hp₀, hle⟩ := h.image hp
        refine ⟨p', p₀, hrel, hp₀, hle, ?_, ?_⟩
        · rw [h.start hrel, h.stop hrel]
          exact .region hpart' (h.through hrel).2
        · rw [h.start hrel, h.stop hrel, ← h.start (h.related hp₀), ← h.stop (h.related hp₀)]
          exact .region hpart (h.through (h.related hp₀)).1
  lift := by
    intro p' i b hleg
    cases hleg with
    | step hturn =>
        obtain ⟨instr, hsingle⟩ := exists_part_of_turn hturn
        cases hpart'.symm.trans hsingle
    | region hregion hp' =>
        cases hpart'.symm.trans hregion
        obtain ⟨p, hp⟩ := h.lift hp'
        refine ⟨p, hp, ?_⟩
        rw [← h.start (h.related hp), ← h.stop (h.related hp)]
        exact .region hpart (h.through (h.related hp)).1
  order := h.order

/-- Where there is no part there are no legs. -/
theorem legsCorrespond_none (hpart : parts[n]? = none) (hpart' : parts'[n]? = none) :
    LegsCorrespond text kept parts parts' n (fun _ _ => False) (fun _ _ => False) where
  start := False.elim
  stop := False.elim
  saves := False.elim
  meets := False.elim
  related := id
  image hleg := by
    obtain ⟨part, h, -⟩ := hleg.exists_part
    cases hpart.symm.trans h
  lift hleg := by
    obtain ⟨part, h, -⟩ := hleg.exists_part
    cases hpart'.symm.trans h
  order := False.elim

theorem getElem?_of_forall₂ {α β : Type} {r : α → β → Prop} {l : List α} {l' : List β}
    (h : List.Forall₂ r l l') (n : Nat) :
    (l[n]? = none ∧ l'[n]? = none) ∨ ∃ a b, l[n]? = some a ∧ l'[n]? = some b ∧ r a b := by
  induction h generalizing n with
  | nil => exact .inl ⟨rfl, rfl⟩
  | cons hr _ ih =>
      cases n with
      | zero => exact .inr ⟨_, _, rfl, rfl, hr⟩
      | succ n => exact ih n

/-- **Parts in the place of others** have corresponding legs. -/
theorem legsCorrespond_of_replaces (text : List Char) (h : List.Forall₂ (PartReplaces kept) parts parts') (n : Nat) :
    ∃ rel first, LegsCorrespond text kept parts parts' n rel first := by
  rcases getElem?_of_forall₂ h n with ⟨hnone, hnone'⟩ | ⟨part, part', hpart, hpart', hreplaces⟩
  · exact ⟨_, _, legsCorrespond_none hnone hnone'⟩
  cases hreplaces with
  | @single instr hsave =>
      refine legsCorrespond_single hpart hpart' fun i choices b saves => ?_
      have hsteps := getElem?_steps hpart
      have hsteps' := getElem?_steps hpart'
      constructor
      · intro hturn
        obtain rfl := hturn.saves_eq_nil hsteps hsave
        exact ⟨[], rfl, hturn.of_getElem?_eq (hsteps'.trans hsteps.symm)⟩
      · rintro ⟨saves', rfl, hturn⟩
        obtain rfl := hturn.saves_eq_nil hsteps' hsave
        exact hturn.of_getElem?_eq (hsteps.trans hsteps'.symm)
  | @save slot slot' hslot =>
      refine legsCorrespond_single hpart hpart' fun i choices b saves => ?_
      rw [passes_save (getElem?_steps hpart)]
      constructor
      · rintro ⟨-, rfl, rfl, rfl⟩
        refine ⟨[(slot', i)], by simp [keep, hslot], ?_⟩
        exact (passes_save (getElem?_steps hpart')).2 ⟨trivial, rfl, rfl, rfl⟩
      · rintro ⟨saves', rfl, hturn⟩
        obtain ⟨-, rfl, rfl, rfl⟩ := (passes_save (getElem?_steps hpart')).1 hturn
        exact ⟨trivial, rfl, by simp [keep, hslot], rfl⟩
  | region hcode =>
      obtain ⟨rel, first, hcorresponds⟩ := hcode text
      exact ⟨rel, first, legsCorrespond_region hpart hpart' hcorresponds⟩

/-! ### Courses in the place of others -/

variable {rel first : Nat → Passage → Passage → Prop}
  {legs legs' more more' : List (Nat × Passage)}

theorem forall_congr_of_forall₂ {α β : Type} {r : α → β → Prop} {l : List α} {l' : List β}
    (h : List.Forall₂ r l l') {P : α → Prop} {Q : β → Prop} (hr : ∀ a b, r a b → (P a ↔ Q b)) :
    (∀ a ∈ l, P a) ↔ ∀ b ∈ l', Q b := by
  induction h with
  | nil => simp
  | cons hab _ ih => rw [List.forall_mem_cons, List.forall_mem_cons, hr _ _ hab, ih]

theorem exists_congr_of_forall₂ {α β : Type} {r : α → β → Prop} {l : List α} {l' : List β}
    (h : List.Forall₂ r l l') {P : α → Prop} {Q : β → Prop} (hr : ∀ a b, r a b → (P a ↔ Q b)) :
    (∃ a ∈ l, P a) ↔ ∃ b ∈ l', Q b := by
  induction h with
  | nil => simp
  | cons hab _ ih => simp only [List.mem_cons, exists_eq_or_imp, hr _ _ hab, ih]

namespace LegsRelated

variable (corresponds : ∀ n, LegsCorrespond text kept parts parts' n (rel n) (first n))

include corresponds

theorem saves (h : LegsRelated rel legs legs') : savesOf legs = keep kept (savesOf legs') := by
  induction h with
  | nil => rfl
  | cons hleg _ ih =>
      simp only [savesOf, List.flatMap_cons, keep_append] at ih ⊢
      rw [ih, (corresponds _).saves hleg.2]

/-- Whether two legs are legs through one part and get in each other's way. -/
theorem meets_iff {leg leg' other other' : Nat × Passage}
    (h : leg.1 = leg'.1 ∧ rel leg.1 leg.2 leg'.2)
    (hother : other.1 = other'.1 ∧ rel other.1 other.2 other'.2) :
    (leg.1 = other.1 ∧ leg.2.Meets other.2) ↔ (leg'.1 = other'.1 ∧ leg'.2.Meets other'.2) := by
  obtain ⟨n, p⟩ := leg
  obtain ⟨n', p'⟩ := leg'
  obtain ⟨m, q⟩ := other
  obtain ⟨m', q'⟩ := other'
  obtain ⟨rfl, hp⟩ : n = n' ∧ rel n p p' := h
  obtain ⟨rfl, hq⟩ : m = m' ∧ rel m q q' := hother
  refine and_congr_right fun hnm => ?_
  obtain rfl : n = m := hnm
  exact (corresponds n).meets hp hq

theorem apart_iff (h : LegsRelated rel legs legs') : Apart legs ↔ Apart legs' := by
  induction h with
  | nil => exact ⟨fun _ => .nil, fun _ => .nil⟩
  | @cons leg leg' rest rest' hleg hrest ih =>
      have head : (∀ other ∈ rest, leg.1 = other.1 → ¬leg.2.Meets other.2) ↔
          ∀ other ∈ rest', leg'.1 = other.1 → ¬leg'.2.Meets other.2 :=
        forall_congr_of_forall₂ hrest fun other other' hother => by
          rw [← not_and, ← not_and, meets_iff corresponds hleg hother]
      rw [Apart, Apart, List.pairwise_cons, List.pairwise_cons, head, ← Apart, ih, ← Apart]

theorem exists_meets_iff (h : LegsRelated rel legs legs') (h' : LegsRelated rel more more') :
    (∃ leg ∈ legs, ∃ other ∈ more, leg.1 = other.1 ∧ leg.2.Meets other.2) ↔
      ∃ leg ∈ legs', ∃ other ∈ more', leg.1 = other.1 ∧ leg.2.Meets other.2 :=
  exists_congr_of_forall₂ h fun _ _ hleg =>
    exists_congr_of_forall₂ h' fun _ _ hother => meets_iff corresponds hleg hother

theorem related (h : LegsRelated first legs legs') : LegsRelated rel legs legs' :=
  h.imp fun _ _ hleg => ⟨hleg.1, (corresponds _).related hleg.2⟩

end LegsRelated

section

variable (corresponds : ∀ n, LegsCorrespond text kept parts parts' n (rel n) (first n))

include corresponds

theorem Course.image {a c : Spot} (h : Course parts text a legs c) :
    ∃ legs' legs₀, Course parts' text a legs' c ∧ Course parts text a legs₀ c ∧
      LegsRelated rel legs legs' ∧ LegsRelated first legs₀ legs' ∧
      NotLater (choicesOf legs₀) (choicesOf legs) := by
  induction h with
  | nil a => exact ⟨[], [], .nil a, .nil a, .nil, .nil, .refl _⟩
  | cons leg _ ih =>
      obtain ⟨p', p₀, hrel, hfirst, hle, hleg', hleg₀⟩ := (corresponds _).image leg
      obtain ⟨legs', legs₀, hlegs', hlegs₀, hrels, hfirsts, hles⟩ := ih
      exact ⟨_, _, .cons hleg' hlegs', .cons hleg₀ hlegs₀, .cons ⟨rfl, hrel⟩ hrels,
        .cons ⟨rfl, hfirst⟩ hfirsts, hle.append hles⟩

theorem Course.lift {a c : Spot} (h : Course parts' text a legs' c) :
    ∃ legs, Course parts text a legs c ∧ LegsRelated first legs legs' := by
  induction h with
  | nil a => exact ⟨[], .nil a, .nil⟩
  | cons leg _ ih =>
      obtain ⟨p, hfirst, hleg⟩ := (corresponds _).lift leg
      obtain ⟨legs, hlegs, hfirsts⟩ := ih
      exact ⟨_, .cons hleg hlegs, .cons ⟨rfl, hfirst⟩ hfirsts⟩

theorem Course.order {a c d : Spot} (h : Course parts text a legs c)
    (h' : Course parts text a more d) (hc : parts.length ≤ c.1) (hd : parts.length ≤ d.1)
    (hlegs : LegsRelated first legs legs') (hmore : LegsRelated first more more') :
    SameOrder (choicesOf legs) (choicesOf more) (choicesOf legs') (choicesOf more') := by
  induction h generalizing more legs' more' with
  | nil a =>
      obtain ⟨rfl, -⟩ := h'.of_length_le hc
      cases hlegs
      cases hmore
      exact .inl ⟨rfl, rfl⟩
  | @cons a b c p legs leg later ih =>
      cases h' with
      | nil => exact absurd leg.lt_length (Nat.not_lt.2 hd)
      | @cons _ b' _ q more leg' later' =>
          obtain ⟨⟨n, p'⟩, legs', ⟨rfl, hp⟩, hrest, rfl⟩ := List.forall₂_cons_left_iff.1 hlegs
          obtain ⟨⟨m, q'⟩, more', ⟨rfl, hq⟩, hrest', rfl⟩ := List.forall₂_cons_left_iff.1 hmore
          have horder : SameOrder p.choices q.choices p'.choices q'.choices :=
            (corresponds a.1).order hp hq (leg.start.trans leg'.start.symm)
          by_cases hsame : p.choices = q.choices
          · have hsame' : p'.choices = q'.choices := by
              rcases horder with ⟨-, heq⟩ | ⟨h, -⟩ | ⟨h, -⟩
              · exact heq
              · exact absurd (hsame ▸ h) Earlier.irrefl
              · exact absurd (hsame ▸ h) Earlier.irrefl
            obtain ⟨rfl, rfl⟩ : p = q ∧ b = b' := by
              rcases leg.compare leg' with heq | h | h
              · exact heq
              · exact absurd (hsame ▸ h) Earlier.irrefl
              · exact absurd (hsame ▸ h) Earlier.irrefl
            have := (ih later' hc hrest hrest').prepend p.choices p'.choices
            simp only [choicesOf, List.flatMap_cons] at this ⊢
            rwa [← hsame']
          · exact horder.append hsame _ _ _ _

/-- **Parts in the place of others** make instructions in the place of others. -/
theorem corresponds_layout (hlength : parts.length = parts'.length) (hparts : WellFormed parts)
    (hparts' : WellFormed parts') :
    ∃ rel first, Corresponds text kept (layout parts) (layout parts') rel first := by
  let between (rel : Nat → Passage → Passage → Prop) (p p' : Passage) : Prop :=
    ∃ legs legs', Course parts text (0, p.start) legs (parts.length, p.stop) ∧
      Course parts' text (0, p'.start) legs' (parts'.length, p'.stop) ∧ Apart legs ∧
      p = joined parts p.start legs p.stop ∧ p' = joined parts' p'.start legs' p'.stop ∧
      p.start = p'.start ∧ p.stop = p'.stop ∧ LegsRelated rel legs legs'
  have mono : ∀ {p p'}, between first p p' → between rel p p' := by
    rintro p p' ⟨legs, legs', h, h', hapart, hp, hp', hstart, hstop, hrel⟩
    exact ⟨legs, legs', h, h', hapart, hp, hp', hstart, hstop, hrel.related corresponds⟩
  refine ⟨between rel, between first, ?_, ?_, ?_, ?_, ?_, mono, ?_, ?_, ?_⟩
  · rintro p p' ⟨legs, legs', h, h', hapart, hp, hp', -, -, hrel⟩
    exact ⟨(through_layout_iff hparts).2 ⟨legs, h, hapart, hp⟩,
      (through_layout_iff hparts').2 ⟨legs', h', (hrel.apart_iff corresponds).1 hapart, hp'⟩⟩
  · exact fun ⟨_, _, _, _, _, _, _, hstart, _⟩ => hstart
  · exact fun ⟨_, _, _, _, _, _, _, _, hstop, _⟩ => hstop
  · rintro p p' ⟨legs, legs', -, -, -, hp, hp', -, -, hrel⟩
    rw [hp, hp']
    exact hrel.saves corresponds
  · rintro p p' q q' ⟨legs, legs', h, h', -, hp, hp', hstart, hstop, hrel⟩
      ⟨more, more', hmore, hmore', -, hq, hq', hqstart, hqstop, hqrel⟩
    rw [hp, hp', hq, hq', meets_joined_iff h hmore, meets_joined_iff h' hmore', hstart, hstop,
      hqstart, hqstop, hrel.exists_meets_iff corresponds hqrel]
  · intro p hp
    obtain ⟨legs, h, hapart, heq⟩ := (through_layout_iff hparts).1 hp
    obtain ⟨legs', legs₀, h', h₀, hrel, hfirst, hle⟩ := h.image corresponds
    rw [hlength] at h'
    refine ⟨joined parts' p.start legs' p.stop, joined parts p.start legs₀ p.stop,
      ⟨legs, legs', h, h', hapart, heq, rfl, rfl, rfl, hrel⟩,
      ⟨legs₀, legs', h₀, h', ?_, rfl, rfl, rfl, rfl, hfirst⟩, ?_⟩
    · exact ((hfirst.related corresponds).apart_iff corresponds).2
        ((hrel.apart_iff corresponds).1 hapart)
    · rw [heq]
      exact hle
  · intro p' hp'
    obtain ⟨legs', h', hapart', heq'⟩ := (through_layout_iff hparts').1 hp'
    rw [← hlength] at h'
    obtain ⟨legs, h, hfirst⟩ := h'.lift corresponds
    refine ⟨joined parts p'.start legs p'.stop, legs, legs', h, hlength ▸ h', ?_, rfl, heq', rfl,
      rfl, hfirst⟩
    exact ((hfirst.related corresponds).apart_iff corresponds).2 hapart'
  · rintro p p' q q' ⟨legs, legs', h, h', -, hp, hp', -, -, hfirst⟩
      ⟨more, more', hmore, hmore', -, hq, hq', -, -, hqfirst⟩ hstart
    rw [hp, hp', hq, hq']
    exact h.order corresponds (hstart ▸ hmore) (Nat.le_refl _) (Nat.le_refl _) hfirst hqfirst

end

/-- **Parts that stand in the place of others** make instructions that stand in their place. -/
theorem Replaces.layout (h : List.Forall₂ (PartReplaces kept) parts parts')
    (hparts : WellFormed parts) (hparts' : WellFormed parts') :
    Replaces kept (layout parts) (layout parts') := by
  intro text
  choose rel first corresponds using legsCorrespond_of_replaces text h
  exact corresponds_layout corresponds h.length_eq hparts hparts'

end

end ParamTemplate.Regex
