/-
**How a choice may be written.**

A choice of choices is one choice, and one of single characters or sets is a set.  What all branches
begin with may be taken out if there is one way through it at most: then nothing is tried in another
order.  If there are several ways, the order changes: first all branches were tried behind the first
way, and now the first branch is tried behind all ways.

Main definition:

* `Regex.Expr.isStraight` — nothing is chosen in an expression, nor how often it is repeated.

Main result:

* `Regex.Expr.becomes_choice` — **a choice can stand in the place of its branches if what is taken
  out of it is straight.**
-/

import ParamTemplate.Proofs.Regex.Branching
import ParamTemplate.Proofs.Regex.Simplifying

set_option autoImplicit false

namespace ParamTemplate.Regex

theorem Passage.Through.sameOrder {code : List Instr} {text : List Char}
    {p q : Passage} (hp : p.Through code text) (hq : q.Through code text)
    (hstart : p.start = q.start) (first first' : List Bool) :
    SameOrder (first ++ p.choices) (first ++ q.choices) (first' ++ p.choices)
      (first' ++ q.choices) := by
  rcases hp.compare hq hstart with rfl | h | h
  · exact .inl ⟨rfl, rfl⟩
  · exact .inr (.inl ⟨h.prepend _, h.prepend _⟩)
  · exact .inr (.inr ⟨h.prepend _, h.prepend _⟩)

namespace Expr

variable {text : List Char} {p q p' q' : Passage} {a b c e e' left right : Expr}

theorem through_inLeft (hp : p.Through (left.code 0) text) :
    (inLeft left right p).Through ((alt left right).code 0) text :=
  through_alt_iff.2 (.inl ⟨p, hp, rfl⟩)

theorem through_inRight (hp : p.Through (right.code 0) text) :
    (inRight left right p).Through ((alt left right).code 0) text :=
  through_alt_iff.2 (.inr ⟨p, hp, rfl⟩)

theorem through_andThen (hp : p.Through (left.code 0) text) (hq : q.Through (right.code 0) text)
    (hmiddle : p.stop = q.start) :
    (andThen left right p q).Through ((cat left right).code 0) text :=
  through_cat_iff.2 ⟨p, q, hp, hq, hmiddle, rfl⟩

/-! ### Choices of choices -/

/-- Ways through a choice of choices, with the two ways to write it. -/
inductive Reassociated (a b c : Expr) (text : List Char) : Passage → Passage → Prop where
  | first {p : Passage} (hp : p.Through (a.code 0) text) :
      Reassociated a b c text (inLeft (alt a b) c (inLeft a b p)) (inLeft a (alt b c) p)
  | second {p : Passage} (hp : p.Through (b.code 0) text) :
      Reassociated a b c text (inLeft (alt a b) c (inRight a b p))
        (inRight a (alt b c) (inLeft b c p))
  | third {p : Passage} (hp : p.Through (c.code 0) text) :
      Reassociated a b c text (inRight (alt a b) c p) (inRight a (alt b c) (inRight b c p))

theorem Reassociated.meets_iff (hp : Reassociated a b c text p p')
    (hq : Reassociated a b c text q q') : p.Meets q ↔ p'.Meets q' := by
  cases hp with
  | first hp =>
      cases hq with
      | first hq =>
          rw [meets_inLeft (through_inLeft hp) (through_inLeft hq), meets_inLeft hp hq,
            meets_inLeft hp hq]
      | second hq =>
          rw [meets_inLeft (through_inLeft hp) (through_inRight hq), meets_inLeft_inRight hp hq,
            meets_inLeft_inRight hp (through_inLeft hq)]
          rfl
      | third hq =>
          rw [meets_inLeft_inRight (through_inLeft hp) hq,
            meets_inLeft_inRight hp (through_inRight hq)]
          rfl
  | second hp =>
      cases hq with
      | first hq =>
          rw [Passage.meets_comm, meets_inLeft (through_inLeft hq) (through_inRight hp),
            meets_inLeft_inRight hq hp, Passage.meets_comm,
            meets_inLeft_inRight hq (through_inLeft hp)]
          rfl
      | second hq =>
          rw [meets_inLeft (through_inRight hp) (through_inRight hq), meets_inRight hp hq,
            meets_inRight (through_inLeft hp) (through_inLeft hq), meets_inLeft hp hq]
      | third hq =>
          rw [meets_inLeft_inRight (through_inRight hp) hq,
            meets_inRight (through_inLeft hp) (through_inRight hq), meets_inLeft_inRight hp hq]
          rfl
  | third hp =>
      cases hq with
      | first hq =>
          rw [Passage.meets_comm, meets_inLeft_inRight (through_inLeft hq) hp, Passage.meets_comm,
            meets_inLeft_inRight hq (through_inRight hp)]
          rfl
      | second hq =>
          rw [Passage.meets_comm, meets_inLeft_inRight (through_inRight hq) hp, Passage.meets_comm,
            meets_inRight (through_inLeft hq) (through_inRight hp), meets_inLeft_inRight hq hp]
          rfl
      | third hq =>
          rw [meets_inRight hp hq, meets_inRight (through_inRight hp) (through_inRight hq),
            meets_inRight hp hq]

theorem Reassociated.sameOrder (hp : Reassociated a b c text p p')
    (hq : Reassociated a b c text q q') (hstart : p.start = q.start) :
    SameOrder p.choices q.choices p'.choices q'.choices := by
  cases hp with
  | first hp =>
      cases hq with
      | first hq => simpa using hp.sameOrder hq hstart [false, false] [false]
      | second => exact .inr (.inl (by simp [Earlier.part, Earlier.cons]))
      | third => exact .inr (.inl (by simp [Earlier.part]))
  | second hp =>
      cases hq with
      | first => exact .inr (.inr (by simp [Earlier.part, Earlier.cons]))
      | second hq => simpa using hp.sameOrder hq hstart [false, true] [true, false]
      | third => exact .inr (.inl (by simp [Earlier.part, Earlier.cons]))
  | third hp =>
      cases hq with
      | first => exact .inr (.inr (by simp [Earlier.part]))
      | second => exact .inr (.inr (by simp [Earlier.part, Earlier.cons]))
      | third hq => simpa using hp.sameOrder hq hstart [true] [true, true]

/-- **A choice of choices** is one choice. -/
theorem becomes_alt_assoc (a b c : Expr) :
    Becomes some (alt (alt a b) c) (alt a (alt b c)) := by
  intro text
  refine ⟨_, _, Corresponds.of_unique (Reassociated a b c text) ?_ ?_ ?_ ?_
    Reassociated.meets_iff ?_ ?_ Reassociated.sameOrder⟩
  · intro p p' h
    cases h with
    | first hp => exact ⟨through_inLeft (through_inLeft hp), through_inLeft hp⟩
    | second hp => exact ⟨through_inLeft (through_inRight hp), through_inRight (through_inLeft hp)⟩
    | third hp => exact ⟨through_inRight hp, through_inRight (through_inRight hp)⟩
  · intro p p' h
    cases h <;> rfl
  · intro p p' h
    cases h <;> rfl
  · intro p p' h
    cases h <;> simp
  · intro p hp
    rcases through_alt_iff.1 hp with ⟨q, hq, rfl⟩ | ⟨q, hq, rfl⟩
    · rcases through_alt_iff.1 hq with ⟨r, hr, rfl⟩ | ⟨r, hr, rfl⟩
      · exact ⟨_, .first hr⟩
      · exact ⟨_, .second hr⟩
    · exact ⟨_, .third hq⟩
  · intro p hp
    rcases through_alt_iff.1 hp with ⟨q, hq, rfl⟩ | ⟨q, hq, rfl⟩
    · exact ⟨_, .first hq⟩
    · rcases through_alt_iff.1 hq with ⟨r, hr, rfl⟩ | ⟨r, hr, rfl⟩
      · exact ⟨_, .second hr⟩
      · exact ⟨_, .third hr⟩

/-! ### What all branches begin with -/

/-- **Whether nothing is chosen in an expression:** whether there is no choice in it and every
repetition of it has a fixed number of rounds. -/
def isStraight : Expr → Bool
  | .empty | .text _ | .set .. | .look _ => true
  | group _ body => body.isStraight
  | repetition min max _ body => max.any (· ≤ min) && body.isStraight
  | cat left right => left.isStraight && right.isStraight
  | alt _ _ => false

/-- Instructions without a choice, which are gone through at a fixed pace. -/
structure Paced (code : List Instr) (width : Nat) (depth : Nat → Nat) : Prop where
  choices {text : List Char} {p : Passage} : p.Through code text → p.choices = []
  stop {text : List Char} {p : Passage} : p.Through code text → p.stop = p.start + width
  spots {text : List Char} {p : Passage} : p.Through code text →
    ∀ s ∈ p.spots, s.2 = p.start + depth s.1

namespace Paced

variable {code : List Instr} {width : Nat} {depth : Nat → Nat}

theorem eq_of_start (h : Paced code width depth) (hp : p.Through code text)
    (hq : q.Through code text) (hstart : p.start = q.start) : p = q :=
  hp.eq_of_choices hq hstart ((h.choices hp).trans (h.choices hq).symm)

/-- Two ways get in each other's way only if they start at the same place. -/
theorem meets_iff (h : Paced code width depth) (hp : p.Through code text)
    (hq : q.Through code text) : p.Meets q ↔ p.start = q.start := by
  constructor
  · rintro (hstart | hstop | ⟨s, hs, hs'⟩)
    · exact hstart
    · rw [h.stop hp, h.stop hq] at hstop
      omega
    · have := h.spots hp s hs
      have := h.spots hq s hs'
      omega
  · exact .inl

end Paced

theorem paced_nil : Paced [] 0 fun _ => 0 := by
  have nothing : ∀ {text : List Char} {p : Passage}, p.Through [] text →
      p.spots = [] ∧ p.choices = [] ∧ p.stop = p.start := by
    intro text p hp
    obtain ⟨hspots, hchoices, -, hend⟩ :=
      (trace_iff_of_not_turn fun _ _ _ => not_turn_none rfl).1 hp.trace
    exact ⟨hspots, hchoices, (Prod.mk.inj hend).2⟩
  refine ⟨fun hp => (nothing hp).2.1, fun hp => (nothing hp).2.2, fun hp => ?_⟩
  rw [(nothing hp).1]
  exact List.forall_mem_nil _

/-- A single instruction that is no fork and goes on behind itself. -/
theorem paced_singleton {instr : Instr} {width : Nat} (hfork : ∀ q r, instr ≠ .fork q r)
    (hstep : ∀ {text i saves b}, Step [instr] text (0, i) saves b → b = (1, i + width)) :
    Paced [instr] width fun _ => 0 := by
  have once : ∀ {text : List Char} {p : Passage}, p.Through [instr] text →
      p.spots = [(0, p.start)] ∧ p.choices = [] ∧ p.stop = p.start + width := by
    rintro text ⟨start, spots, choices, saves, stop⟩ ⟨htrace, -⟩
    dsimp only at htrace ⊢
    generalize hto : ([instr].length, stop) = c at htrace
    cases htrace with
    | nil => cases hto
    | cons turn later =>
        subst hto
        obtain ⟨rfl, hturn⟩ := (turn_iff_step (by simpa using hfork)).1 turn
        obtain rfl := hstep hturn
        obtain ⟨rfl, rfl, -, hend⟩ :=
          (trace_iff_of_not_turn fun _ _ _ => not_turn_none rfl).1 later
        exact ⟨rfl, rfl, (Prod.mk.inj hend).2⟩
  refine ⟨fun hp => (once hp).2.1, fun hp => (once hp).2.2, fun hp => ?_⟩
  rw [(once hp).1]
  simp

namespace Paced

variable {width width' : Nat} {depth depth' : Nat → Nat}

theorem cat (h : Paced (left.code 0) width depth) (h' : Paced (right.code 0) width' depth') :
    Paced ((Expr.cat left right).code 0) (width + width') fun place =>
      if place < left.codeLength then depth place
      else width + depth' (place - left.codeLength) where
  choices hr := by
    obtain ⟨p, q, hp, hq, -, rfl⟩ := through_cat_iff.1 hr
    rw [choices_andThen, h.choices hp, h'.choices hq, List.append_nil]
  stop hr := by
    obtain ⟨p, q, hp, hq, hmiddle, rfl⟩ := through_cat_iff.1 hr
    rw [stop_andThen, start_andThen, h'.stop hq, ← hmiddle, h.stop hp, Nat.add_assoc]
  spots hr := by
    obtain ⟨p, q, hp, hq, hmiddle, rfl⟩ := through_cat_iff.1 hr
    intro s hs
    have hlt : ∀ s ∈ p.spots, s.1 < left.codeLength := by simpa using hp.trace.lt_length
    simp only [andThen, joined, spotsOf, catParts, place, List.flatMap_cons, List.flatMap_nil,
      List.append_nil, List.mem_append, List.mem_map, List.take_zero, List.take_succ_cons,
      List.map_nil, List.map_cons, List.sum_nil, List.sum_cons, Part.length, length_code] at hs
    rcases hs with ⟨x, hx, rfl⟩ | ⟨x, hx, rfl⟩
    · simpa [hlt x hx] using h.spots hp x hx
    · have hright : ¬(Spot.move (left.codeLength + 0) x).1 < left.codeLength := by simp
      rw [if_neg hright, Spot.snd_move, Spot.fst_move, h'.spots hq x hx, ← hmiddle, h.stop hp]
      simp [Nat.add_assoc]

theorem group {index : Nat} (h : Paced (e.code 0) width depth) :
    Paced ((Expr.group index e).code 0) width fun place =>
      if place = 0 then 0 else if place ≤ e.codeLength then depth (place - 1) else width where
  choices hq := by
    obtain ⟨p, hp, rfl⟩ := through_group_iff.1 hq
    rw [choices_within, h.choices hp]
  stop hq := by
    obtain ⟨p, hp, rfl⟩ := through_group_iff.1 hq
    rw [stop_within, start_within, h.stop hp]
  spots hq := by
    obtain ⟨p, hp, rfl⟩ := through_group_iff.1 hq
    intro s hs
    have hlt : ∀ s ∈ p.spots, s.1 < e.codeLength := by simpa using hp.trace.lt_length
    simp only [within, joined, spotsOf, groupParts, groupLegs, place, still, List.flatMap_cons,
      List.flatMap_nil, List.append_nil, List.mem_append, List.mem_map, List.take_zero,
      List.take_succ_cons, List.map_nil, List.map_cons, List.sum_nil, List.sum_cons, Part.length,
      length_code, List.mem_singleton] at hs
    rcases hs with rfl | ⟨x, hx, rfl⟩ | rfl
    · simp
    · have := hlt x hx
      have hfirst : ¬(Spot.move (1 + 0) x).1 = 0 := by simp
      have hlast : (Spot.move (1 + 0) x).1 ≤ e.codeLength := by
        rw [Spot.fst_move]
        omega
      rw [if_neg hfirst, if_pos hlast, Spot.snd_move, Spot.fst_move, h.spots hp x hx]
      simp
    · have hfirst : ¬(Spot.move (1 + (e.codeLength + 0)) (0, p.stop)).1 = 0 := by simp
      have hlast : ¬(Spot.move (1 + (e.codeLength + 0)) (0, p.stop)).1 ≤ e.codeLength := by
        rw [Spot.fst_move]
        omega
      rw [if_neg hfirst, if_neg hlast, Spot.snd_move, start_within, h.stop hp]

end Paced

/-- **Where nothing is chosen there is one way at most,** and it goes on at a fixed pace. -/
theorem exists_paced (h : e.isStraight) : ∃ width depth, Paced (e.code 0) width depth := by
  induction e with
  | empty => exact ⟨_, _, paced_nil⟩
  | text chars =>
      clear h
      induction chars with
      | nil => exact ⟨_, _, paced_nil⟩
      | cons c chars ih =>
          obtain ⟨width, depth, ih⟩ := ih
          have first : Paced ((Expr.text [c]).code 0) 1 fun _ => 0 :=
            paced_singleton nofun fun hstep => ((step_char rfl).1 hstep).2.1
          exact ⟨_, _, first.cat ih⟩
  | set ascii s =>
      have one : Paced ((Expr.set ascii s).code 0) 1 fun _ => 0 :=
        paced_singleton nofun fun hstep => ((step_set rfl).1 hstep).2.1
      exact ⟨_, _, one⟩
  | look k =>
      have none : Paced ((Expr.look k).code 0) 0 fun _ => 0 :=
        paced_singleton nofun fun hstep => ((step_look rfl).1 hstep).2.1
      exact ⟨_, _, none⟩
  | group index body ih =>
      obtain ⟨width, depth, ih⟩ := ih h
      exact ⟨_, _, ih.group⟩
  | repetition min max greedy body ih =>
      obtain ⟨hmax, hbody⟩ := Bool.and_eq_true_iff.1 h
      obtain ⟨width, depth, ih⟩ := ih hbody
      cases max with
      | none => cases hmax
      | some m =>
          clear h
          induction min generalizing m with
          | zero =>
              obtain rfl : m = 0 := by simpa using hmax
              have hnil : (repetition 0 (some 0) greedy body).code 0 = [] := by
                simp [code, repetitionCode_some, copies]
              exact ⟨_, _, hnil ▸ paced_nil⟩
          | succ n ihn =>
              rw [code_repetition_succ_some]
              obtain ⟨_, _, hrest⟩ := ihn (m - 1) (by simp at hmax ⊢; omega)
              exact ⟨_, _, ih.cat hrest⟩
  | cat left right ihl ihr =>
      obtain ⟨hleft, hright⟩ := Bool.and_eq_true_iff.1 h
      obtain ⟨_, _, ihl⟩ := ihl hleft
      obtain ⟨_, _, ihr⟩ := ihr hright
      exact ⟨_, _, ihl.cat ihr⟩
  | alt left right => cases h

/-- Ways through branches that begin alike, and ways with the beginning taken out. -/
inductive TakenOut (e a b : Expr) (text : List Char) : Passage → Passage → Prop where
  | first {p q : Passage} (hp : p.Through (e.code 0) text) (hq : q.Through (a.code 0) text)
      (hmiddle : p.stop = q.start) :
      TakenOut e a b text (inLeft (cat e a) (cat e b) (andThen e a p q))
        (andThen e (alt a b) p (inLeft a b q))
  | second {p q : Passage} (hp : p.Through (e.code 0) text) (hq : q.Through (b.code 0) text)
      (hmiddle : p.stop = q.start) :
      TakenOut e a b text (inRight (cat e a) (cat e b) (andThen e b p q))
        (andThen e (alt a b) p (inRight a b q))

namespace TakenOut

variable {width : Nat} {depth : Nat → Nat}

theorem meets_iff (h : Paced (e.code 0) width depth) (hp : TakenOut e a b text p p')
    (hq : TakenOut e a b text q q') : p.Meets q ↔ p'.Meets q' := by
  -- In two branches the beginnings are gone through apart, which makes no difference: they meet
  -- only if they start at the same place, and then they stop at the same place.
  have apart : ∀ {p q r s : Passage}, p.Through (e.code 0) text → q.Through (e.code 0) text →
      p.stop = r.start → q.stop = s.start →
      (p.start = q.start ∨ r.stop = s.stop ↔ p.Meets q ∨ r.start = s.start ∨ r.stop = s.stop) := by
    intro p q r s hp hq hpr hqs
    rw [h.meets_iff hp hq, ← hpr, ← hqs, h.stop hp, h.stop hq]
    constructor
    · rintro (hstart | hstop)
      · exact .inl hstart
      · exact .inr (.inr hstop)
    · rintro (hstart | hstop | hstop)
      · exact .inl hstart
      · exact .inl (Nat.add_right_cancel hstop)
      · exact .inr hstop
  cases hp with
  | first hp hp' hpmiddle =>
      cases hq with
      | first hq hq' hqmiddle =>
          rw [meets_inLeft (through_andThen hp hp' hpmiddle) (through_andThen hq hq' hqmiddle),
            meets_andThen hp hp' hpmiddle hq hq' hqmiddle,
            meets_andThen hp (through_inLeft hp') hpmiddle hq (through_inLeft hq') hqmiddle,
            meets_inLeft hp' hq']
      | second hq hq' hqmiddle =>
          rw [meets_inLeft_inRight (through_andThen hp hp' hpmiddle)
              (through_andThen hq hq' hqmiddle),
            meets_andThen hp (through_inLeft hp') hpmiddle hq (through_inRight hq') hqmiddle,
            meets_inLeft_inRight hp' hq']
          exact apart hp hq hpmiddle hqmiddle
  | second hp hp' hpmiddle =>
      cases hq with
      | first hq hq' hqmiddle =>
          rw [Passage.meets_comm, meets_inLeft_inRight (through_andThen hq hq' hqmiddle)
              (through_andThen hp hp' hpmiddle), Passage.meets_comm,
            meets_andThen hq (through_inLeft hq') hqmiddle hp (through_inRight hp') hpmiddle,
            meets_inLeft_inRight hq' hp']
          exact apart hq hp hqmiddle hpmiddle
      | second hq hq' hqmiddle =>
          rw [meets_inRight (through_andThen hp hp' hpmiddle) (through_andThen hq hq' hqmiddle),
            meets_andThen hp hp' hpmiddle hq hq' hqmiddle,
            meets_andThen hp (through_inRight hp') hpmiddle hq (through_inRight hq') hqmiddle,
            meets_inRight hp' hq']

theorem sameOrder (h : Paced (e.code 0) width depth) (hp : TakenOut e a b text p p')
    (hq : TakenOut e a b text q q') (hstart : p.start = q.start) :
    SameOrder p.choices q.choices p'.choices q'.choices := by
  cases hp with
  | first hp hp' hpmiddle =>
      cases hq with
      | first hq hq' hqmiddle =>
          obtain rfl := h.eq_of_start hp hq hstart
          simpa [h.choices hp] using
            hp'.sameOrder hq' (hpmiddle.symm.trans hqmiddle) [false] [false]
      | second hq =>
          refine .inr (.inl ?_)
          simp [h.choices hp, h.choices hq, Earlier.part]
  | second hp hp' hpmiddle =>
      cases hq with
      | first hq =>
          refine .inr (.inr ?_)
          simp [h.choices hp, h.choices hq, Earlier.part]
      | second hq hq' hqmiddle =>
          obtain rfl := h.eq_of_start hp hq hstart
          simpa [h.choices hp] using
            hp'.sameOrder hq' (hpmiddle.symm.trans hqmiddle) [true] [true]

end TakenOut

/-- **What both branches begin with may be taken out** if nothing is chosen in it. -/
theorem becomes_takenOut (h : e.isStraight) (a b : Expr) :
    Becomes some (alt (cat e a) (cat e b)) (cat e (alt a b)) := by
  obtain ⟨width, depth, h⟩ := exists_paced h
  intro text
  refine ⟨_, _, Corresponds.of_unique (TakenOut e a b text) ?_ ?_ ?_ ?_ (TakenOut.meets_iff h) ?_
    ?_ (TakenOut.sameOrder h)⟩
  · intro p p' hrel
    cases hrel with
    | first hp hq hmiddle =>
        exact ⟨through_inLeft (through_andThen hp hq hmiddle),
          through_andThen hp (through_inLeft hq) hmiddle⟩
    | second hp hq hmiddle =>
        exact ⟨through_inRight (through_andThen hp hq hmiddle),
          through_andThen hp (through_inRight hq) hmiddle⟩
  · intro p p' hrel
    cases hrel <;> rfl
  · intro p p' hrel
    cases hrel <;> rfl
  · intro p p' hrel
    cases hrel <;> simp
  · intro s hs
    rcases through_alt_iff.1 hs with ⟨r, hr, rfl⟩ | ⟨r, hr, rfl⟩
    · obtain ⟨p, q, hp, hq, hmiddle, rfl⟩ := through_cat_iff.1 hr
      exact ⟨_, .first hp hq hmiddle⟩
    · obtain ⟨p, q, hp, hq, hmiddle, rfl⟩ := through_cat_iff.1 hr
      exact ⟨_, .second hp hq hmiddle⟩
  · intro r hr
    obtain ⟨p, s, hp, hs, hmiddle, rfl⟩ := through_cat_iff.1 hr
    rcases through_alt_iff.1 hs with ⟨q, hq, rfl⟩ | ⟨q, hq, rfl⟩
    · exact ⟨_, .first hp hq hmiddle⟩
    · exact ⟨_, .second hp hq hmiddle⟩

/-! ### Single characters -/

/-- **Whether an expression matches one character,** and which. -/
def StepsOver (e : Expr) (s : CharSet) : Prop :=
  ∀ (text : List Char) (p : Passage), p.Through (e.code 0) text ↔
    ∃ i c, text[i]? = some c ∧ s.contains c ∧ p = ⟨i, [(0, i)], [], [], i + 1⟩

theorem stepsOver_of_code (instr : Instr) {s : CharSet} (hcode : e.code 0 = [instr])
    (hfork : ∀ q r, instr ≠ .fork q r)
    (hstep : ∀ {text i saves b}, Step [instr] text (0, i) saves b ↔
      saves = [] ∧ b = (1, i + 1) ∧ ∃ c, text[i]? = some c ∧ s.contains c) : StepsOver e s := by
  intro text p
  rw [hcode]
  have single : ∀ q r, [instr][0]? ≠ some (.fork q r) := by simpa using hfork
  constructor
  · rintro ⟨htrace, -⟩
    obtain ⟨start, spots, choices, saves, stop⟩ := p
    dsimp only at htrace ⊢
    generalize hto : ([instr].length, stop) = c at htrace
    cases htrace with
    | nil => cases hto
    | cons turn later =>
        subst hto
        obtain ⟨rfl, hturn⟩ := (turn_iff_step single).1 turn
        obtain ⟨rfl, rfl, c, hc, hs⟩ := hstep.1 hturn
        obtain ⟨rfl, rfl, rfl, hend⟩ :=
          (trace_iff_of_not_turn fun _ _ _ => not_turn_none rfl).1 later
        obtain rfl := (Prod.mk.inj hend).2
        exact ⟨start, c, hc, hs, rfl⟩
  · rintro ⟨i, c, hc, hs, rfl⟩
    refine ⟨?_, List.nodup_singleton _⟩
    exact .cons ((turn_iff_step single).2 ⟨rfl, hstep.2 ⟨rfl, rfl, c, hc, hs⟩⟩) (.nil _)

theorem stepsOver_set (ascii : Bool) (s : CharSet) : StepsOver (.set ascii s) s :=
  stepsOver_of_code (.set s) rfl nofun (step_set rfl)

theorem stepsOver_text (d : Char) : StepsOver (.text [d]) (.single d) := by
  refine stepsOver_of_code (.char d) rfl nofun fun {text i saves b} => ?_
  rw [step_char rfl]
  simp

theorem StepsOver.congr {s t : CharSet} (h : StepsOver e s)
    (hst : ∀ c, s.contains c = t.contains c) : StepsOver e t := by
  intro text p
  rw [h]
  simp only [hst]

theorem stepsOver_ofSet (ascii : Bool) (s : CharSet) : StepsOver (ofSet ascii s) s := by
  unfold ofSet
  split
  next d hd =>
    refine (stepsOver_text d).congr fun c => ?_
    rw [CharSet.contains_single, CharSet.contains_of_single? hd]
  next => exact stepsOver_set _ s

/-- Two expressions that match the same characters. -/
theorem becomes_of_stepsOver {s : CharSet} (h : StepsOver e s) (h' : StepsOver e' s) :
    Becomes some e e' := by
  intro text
  have same : ∀ p : Passage, p.Through (e.code 0) text ↔ p.Through (e'.code 0) text := by
    intro p
    rw [h, h']
  obtain ⟨rel, first, hrefl⟩ := Replaces.refl (e.code 0) text
  exact ⟨rel, first, fun hrel => ⟨(hrefl.through hrel).1, (same _).1 (hrefl.through hrel).2⟩,
    hrefl.start, hrefl.stop, hrefl.saves, hrefl.meets, hrefl.related, hrefl.image,
    fun hp => hrefl.lift ((same _).2 hp), hrefl.order⟩

/-- A way over one character goes on by one place and chooses nothing. -/
theorem StepsOver.exists_eq {s : CharSet} (h : StepsOver e s) {p : Passage}
    (hp : p.Through (e.code 0) text) : ∃ i, p = ⟨i, [(0, i)], [], [], i + 1⟩ := by
  obtain ⟨i, c, -, -, hp⟩ := (h _ _).1 hp
  exact ⟨i, hp⟩

/-- Ways over one character through either branch, and ways over it at once. -/
inductive Merged (a b : Expr) (text : List Char) : Passage → Passage → Prop where
  | first {p : Passage} (hp : p.Through (a.code 0) text) : Merged a b text (inLeft a b p) p
  | second {p : Passage} (hp : p.Through (b.code 0) text) : Merged a b text (inRight a b p) p

/-- **A choice of characters** is a set. -/
theorem becomes_merged {s t u : CharSet} (ha : StepsOver a s) (hb : StepsOver b t)
    (he : StepsOver e u) (hu : ∀ c, u.contains c = (s.contains c || t.contains c)) :
    Becomes some (alt a b) e := by
  intro text
  have through : ∀ p : Passage, p.Through (e.code 0) text ↔
      p.Through (a.code 0) text ∨ p.Through (b.code 0) text := by
    intro p
    rw [ha, hb, he]
    simp only [hu, Bool.or_eq_true]
    grind
  have step : ∀ {p p' : Passage}, Merged a b text p p' →
      ∃ i, p' = ⟨i, [(0, i)], [], [], i + 1⟩ := by
    rintro _ _ (hp | hp)
    · exact ha.exists_eq hp
    · exact hb.exists_eq hp
  have meets : ∀ {p q : Passage}, p.Through (a.code 0) text → q.Through (b.code 0) text →
      (p.start = q.start ∨ p.stop = q.stop ↔ p.Meets q) := by
    intro p q hp hq
    obtain ⟨i, rfl⟩ := ha.exists_eq hp
    obtain ⟨j, rfl⟩ := hb.exists_eq hq
    simp [Passage.Meets]
  -- Of two ways over the same character the one through the first branch is tried first.
  refine ⟨Merged a b text, fun p p' => Merged a b text p p' ∧
    (p'.Through (a.code 0) text → p = inLeft a b p'), ?_, ?_, ?_, ?_, ?_, And.left, ?_, ?_, ?_⟩
  · intro p p' h
    cases h with
    | first hp => exact ⟨through_inLeft hp, (through _).2 (.inl hp)⟩
    | second hp => exact ⟨through_inRight hp, (through _).2 (.inr hp)⟩
  · intro p p' h
    cases h <;> rfl
  · intro p p' h
    cases h <;> rfl
  · intro p p' h
    cases h <;> simp
  · intro p p' q q' hp hq
    cases hp with
    | first hp =>
        cases hq with
        | first hq => exact meets_inLeft hp hq
        | second hq => rw [meets_inLeft_inRight hp hq, meets hp hq]
    | second hp =>
        cases hq with
        | first hq =>
            rw [Passage.meets_comm, meets_inLeft_inRight hq hp, meets hq hp,
              Passage.meets_comm]
        | second hq => exact meets_inRight hp hq
  · intro p hp
    rcases through_alt_iff.1 hp with ⟨q, hq, rfl⟩ | ⟨q, hq, rfl⟩
    · exact ⟨q, _, .first hq, ⟨.first hq, fun _ => rfl⟩, .refl _⟩
    · by_cases hqa : q.Through (a.code 0) text
      · refine ⟨q, _, .second hq, ⟨.first hqa, fun _ => rfl⟩, .inr ?_⟩
        simp [Earlier.part]
      · exact ⟨q, _, .second hq, ⟨.second hq, fun h => absurd h hqa⟩, .refl _⟩
  · intro q hq
    by_cases hqa : q.Through (a.code 0) text
    · exact ⟨_, .first hqa, fun _ => rfl⟩
    · have hqb := ((through q).1 hq).resolve_left hqa
      exact ⟨_, .second hqb, fun h => absurd h hqa⟩
  · rintro p p' q q' ⟨hp, hpfirst⟩ ⟨hq, hqfirst⟩ hstart
    have same : p' = q' := by
      obtain ⟨i, rfl⟩ := step hp
      obtain ⟨j, rfl⟩ := step hq
      obtain rfl : i = j := by
        cases hp <;> cases hq <;> exact hstart
      rfl
    subst same
    refine .inl ⟨?_, rfl⟩
    by_cases ha' : p'.Through (a.code 0) text
    · rw [hpfirst ha', hqfirst ha']
    · cases hp with
      | first hp => exact absurd hp ha'
      | second hp =>
          cases hq with
          | first hq => exact absurd hq ha'
          | second hq => rfl

/-! ### Choices of several branches -/

variable {es parts : List Expr}

theorem becomes_unions {sets : List CharSet} (hne : parts ≠ [])
    (h : List.Forall₂ StepsOver parts sets) (he : StepsOver e (CharSet.unions sets)) :
    Becomes some (Expr.firstOf parts) e := by
  induction h generalizing e with
  | nil => exact absurd rfl hne
  | @cons part s parts sets hpart hparts ih =>
      by_cases hlast : parts = []
      · subst hlast
        cases hparts
        exact becomes_of_stepsOver hpart (he.congr fun c => by simp)
      · rw [firstOf_cons part hlast]
        refine ((Becomes.refl part).alt (ih hlast (stepsOver_set false _))).trans_some ?_
        exact becomes_merged hpart (stepsOver_set false _) he fun c => by simp

/-- **Branches that are single characters or sets** may be one set. -/
theorem becomes_mergedSet {s : CharSet} (hne : parts ≠ []) (h : mergedSet? parts = some s) :
    Becomes some (Expr.firstOf parts) (ofSet false s) := by
  rcases Option.or_eq_some_iff.1 h with hchars | ⟨-, hsets⟩
  · obtain ⟨chars, hparts, rfl⟩ := Option.map_eq_some_iff.1 hchars
    obtain rfl := eq_map_of_mapM (fun _ _ => eq_text_of_char?) hparts
    refine becomes_unions hne ?_ (stepsOver_ofSet _ _)
    rw [List.forall₂_map_left_iff, List.forall₂_map_right_iff, List.forall₂_same]
    exact fun c _ => stepsOver_text c
  · obtain ⟨sets, hparts, rfl⟩ := Option.map_eq_some_iff.1 hsets
    obtain rfl := eq_map_of_mapM (fun _ _ => eq_set_of_set?) hparts
    refine becomes_unions hne ?_ (stepsOver_ofSet _ _)
    rw [List.forall₂_map_left_iff, List.forall₂_map_right_iff, List.forall₂_same]
    exact fun _ _ => stepsOver_set _ _

theorem isStraight_chain (h : ∀ e ∈ es, e.isStraight) : (chain es).isStraight :=
  chain_congr (R := fun e _ => e.isStraight) rfl
    (fun hleft hright => Bool.and_eq_true_iff.2 ⟨hleft, hright⟩) (List.forall₂_same.2 h)

/-- The instructions of an expression are those of what it does one after the other. -/
theorem codeAll_flat (e : Expr) (start : Nat) : codeAll e.flat start = e.code start := by
  induction e generalizing start with
  | empty => rfl
  | text chars =>
      induction chars generalizing start with
      | nil => rfl
      | cons c chars ih =>
          change [.char c] ++ codeAll (Expr.text chars).flat (start + 1) = _
          rw [ih]
          rfl
  | cat left right ihl ihr =>
      rw [flat, codeAll_append, ihl, ihr, length_code, code]
  | set | look | group | repetition | alt => exact List.append_nil _

/-- **The steps of which simplifications are made,** where nothing is chosen in what is taken out. -/
theorem becomes_allows : Allows (Becomes some) (·.isStraight) where
  trans := Becomes.trans_some
  cat := (Becomes.refl _).cat
  alt := Becomes.alt
  flat {a b} h := .of_code_eq (by rw [← codeAll_flat, h, codeAll_flat])
  assoc := becomes_alt_assoc
  distrib := becomes_takenOut
  merged := becomes_mergedSet
  chain := isStraight_chain

/-- **A choice can stand in the place of its branches** if nothing is chosen in what is taken out. -/
theorem becomes_choice (h : ∀ e ∈ takenOut parts, e.isStraight) :
    Becomes some (firstOf parts) (choice parts) :=
  becomes_allows.choice h

end Expr

end ParamTemplate.Regex
