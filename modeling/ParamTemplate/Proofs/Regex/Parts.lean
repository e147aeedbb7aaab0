/-
**Instructions that are put together from parts.**

A part is a single instruction or a region that is entered at its first place and left behind its
last one.  In a plan of parts the instructions name parts and not places, so that the parts can be
of any length.  A way through all of it is a sequence of legs, one for each part that is gone
through.

The instructions are gone through without coming to a spot twice if no two legs through one part get
in each other's way.  So it is enough to know of a region how it is gone through alone, and which
ways through it get in each other's way.

Main definitions:

* `Regex.Part`, `Regex.layout` — parts, and the instructions that they make;
* `Regex.Leg`, `Regex.Course` — ways through one part, and through several.

Main results:

* `Regex.through_layout_iff` — **the ways through the instructions are the courses through the
  parts**;
* `Regex.meets_joined_iff` — two of them get in each other's way if two of their legs do.
-/

import Mathlib.Algebra.Ring.Nat
import ParamTemplate.Proofs.Regex.Passage

set_option autoImplicit false

namespace ParamTemplate.Regex

/-! ### Parts -/

/-- A part: an instruction that names parts by their numbers, or a region. -/
inductive Part where
  | single (instr : Instr)
  | region (code : List Instr)

/-- The number of instructions of a part. -/
def Part.length : Part → Nat
  | single _ => 1
  | region code => code.length

/-- An instruction that names other places. -/
def Instr.retarget (f : Nat → Nat) : Instr → Instr
  | fork first second => fork (f first) (f second)
  | jump target => jump (f target)
  | instr => instr

/-- The instructions of a part that stands at a place. -/
def Part.codeAt (f : Nat → Nat) (start : Nat) : Part → List Instr
  | single instr => [instr.retarget f]
  | region code => code.map (Instr.move start)

@[simp] theorem Part.length_codeAt (f : Nat → Nat) (start : Nat) (part : Part) :
    (part.codeAt f start).length = part.length := by
  cases part <;> simp [codeAt, length]

/-- The number of instructions of the first parts. -/
def place (parts : List Part) (n : Nat) : Nat := ((parts.take n).map Part.length).sum

/-- The instructions of parts that stand from a place on. -/
def layoutFrom (f : Nat → Nat) : Nat → List Part → List Instr
  | _, [] => []
  | start, part :: rest => part.codeAt f start ++ layoutFrom f (start + part.length) rest

/-- **The instructions of parts.** -/
def layout (parts : List Part) : List Instr := layoutFrom (place parts) 0 parts

/-- What is asked of one of `count` parts: an instruction names parts or the place behind the last
one, and a region does not lead out of its midst. -/
def Part.Fits (count : Nat) : Part → Prop
  | single instr => ∀ target ∈ instr.targets, target ≤ count
  | region code => StaysIn 0 code.length code

/-- What is asked of parts. -/
def WellFormed (parts : List Part) : Prop := ∀ part ∈ parts, part.Fits parts.length

section

variable {parts : List Part} {part : Part} {n m : Nat}

@[simp] theorem place_zero (parts : List Part) : place parts 0 = 0 := rfl

theorem place_succ (h : parts[n]? = some part) : place parts (n + 1) = place parts n + part.length := by
  simp [place, List.take_add_one, h]

theorem place_le (parts : List Part) (h : n ≤ m) : place parts n ≤ place parts m := by
  obtain ⟨k, rfl⟩ := Nat.exists_eq_add_of_le h
  simp [place, List.take_add]

theorem length_layoutFrom (f : Nat → Nat) (start : Nat) (parts : List Part) :
    (layoutFrom f start parts).length = (parts.map Part.length).sum := by
  induction parts generalizing start with
  | nil => rfl
  | cons part parts ih => simp [layoutFrom, ih]

theorem length_layout (parts : List Part) : (layout parts).length = place parts parts.length := by
  simp [layout, length_layoutFrom, place]

/-- Two parts have no place in common. -/
theorem eq_of_place_add {part' : Part} {x y : Nat} (hn : parts[n]? = some part)
    (hm : parts[m]? = some part') (hx : x < part.length) (hy : y < part'.length)
    (heq : place parts n + x = place parts m + y) : n = m ∧ x = y := by
  have hsuccn := place_succ hn
  have hsuccm := place_succ hm
  rcases Nat.lt_trichotomy n m with hlt | rfl | hlt
  · have := place_le parts (show n + 1 ≤ m from hlt)
    omega
  · exact ⟨rfl, by omega⟩
  · have := place_le parts (show m + 1 ≤ n from hlt)
    omega

theorem layoutFrom_prefix (f : Nat → Nat) (start : Nat) (h : parts[n]? = some part) :
    part.codeAt f (start + place parts n) <+: (layoutFrom f start parts).drop (place parts n) := by
  induction parts generalizing start n with
  | nil => cases h
  | cons head parts ih =>
      cases n with
      | zero =>
          cases h
          exact List.prefix_append ..
      | succ n =>
          have hplace : place (head :: parts) (n + 1) = head.length + place parts n := by
            simp [place]
          have hskip : (layoutFrom f start (head :: parts)).drop (place (head :: parts) (n + 1)) =
              (layoutFrom f (start + head.length) parts).drop (place parts n) := by
            rw [hplace, layoutFrom, ← List.drop_drop, ← Part.length_codeAt f start head,
              List.drop_left]
          rw [hskip, hplace, ← Nat.add_assoc]
          exact ih _ h

/-- **Where a part stands.** -/
theorem layout_prefix (h : parts[n]? = some part) :
    part.codeAt (place parts) (place parts n) <+: (layout parts).drop (place parts n) := by
  simpa [layout] using layoutFrom_prefix (place parts) 0 h

theorem getElem?_layout {instr : Instr} (h : parts[n]? = some (.single instr)) :
    (layout parts)[place parts n]? = some (instr.retarget (place parts)) := by
  obtain ⟨rest, hrest⟩ := layout_prefix h
  rw [← List.head?_drop, ← hrest]
  rfl

theorem WellFormed.placed {code : List Instr} (hparts : WellFormed parts)
    (h : parts[n]? = some (.region code)) : Placed code (layout parts) (place parts n) where
  staysIn := hparts _ (List.mem_of_getElem? h)
  placed := layout_prefix h

end

/-! ### Legs -/

/-- The instructions among the parts, without the regions. -/
def steps (parts : List Part) : List Instr :=
  parts.map fun
    | .single instr => instr
    | .region _ => .accept

/-- **A way through one part,** from a part and a place of the text to others. -/
inductive Leg (parts : List Part) (text : List Char) : Spot → Passage → Spot → Prop where
  | step {n i : Nat} {choices : List Bool} {saves : List Save} {next : Spot}
      (turn : Turn (steps parts) text (n, i) choices saves next) :
      Leg parts text (n, i) ⟨i, [(0, i)], choices, saves, next.2⟩ next
  | region {n : Nat} {code : List Instr} {p : Passage} (part : parts[n]? = some (.region code))
      (through : p.Through code text) : Leg parts text (n, p.start) p (n + 1, p.stop)

/-- **A way through several parts,** with the number of the part for each leg. -/
inductive Course (parts : List Part) (text : List Char) :
    Spot → List (Nat × Passage) → Spot → Prop where
  | nil (a : Spot) : Course parts text a [] a
  | cons {a b c : Spot} {p : Passage} {legs : List (Nat × Passage)} (leg : Leg parts text a p b)
      (later : Course parts text b legs c) : Course parts text a ((a.1, p) :: legs) c

/-- The spots of legs. -/
def spotsOf (parts : List Part) (legs : List (Nat × Passage)) : List Spot :=
  legs.flatMap fun leg => leg.2.spots.map (Spot.move (place parts leg.1))

/-- The choices on legs. -/
def choicesOf (legs : List (Nat × Passage)) : List Bool := legs.flatMap fun leg => leg.2.choices

/-- What is remembered on legs. -/
def savesOf (legs : List (Nat × Passage)) : List Save := legs.flatMap fun leg => leg.2.saves

/-- What comes of legs, one after the other. -/
def joined (parts : List Part) (start : Nat) (legs : List (Nat × Passage)) (stop : Nat) :
    Passage where
  start := start
  spots := spotsOf parts legs
  choices := choicesOf legs
  saves := savesOf legs
  stop := stop

/-- Whether no two legs through one part get in each other's way. -/
def Apart (legs : List (Nat × Passage)) : Prop :=
  legs.Pairwise fun leg leg' => leg.1 = leg'.1 → ¬leg.2.Meets leg'.2

section

variable {parts : List Part} {text : List Char} {a b b' : Spot} {p p' : Passage} {n i j m : Nat}
  {choices : List Bool} {saves : List Save}

theorem getElem?_steps {instr : Instr} (h : parts[n]? = some (.single instr)) :
    (steps parts)[n]? = some instr := by
  simp [steps, h]

theorem exists_part_of_turn (h : Turn (steps parts) text (n, i) choices saves b) :
    ∃ instr, parts[n]? = some (.single instr) := by
  obtain ⟨part, hpart⟩ : ∃ part, parts[n]? = some part :=
    ⟨_, List.getElem?_eq_getElem (by simpa [steps] using h.lt_length)⟩
  cases part with
  | single instr => exact ⟨instr, hpart⟩
  | region code => exact absurd h (not_turn_accept (by simp [steps, hpart]))

/-- A step names parts, and the places where they stand. -/
theorem turn_layout_iff {instr : Instr} (h : parts[n]? = some (.single instr)) {q : Nat} :
    Turn (layout parts) text (place parts n, i) choices saves (q, j) ↔
      ∃ m, q = place parts m ∧ Turn (steps parts) text (n, i) choices saves (m, j) := by
  have hsteps := getElem?_steps h
  have hlayout := getElem?_layout h
  have hsucc : place parts (n + 1) = place parts n + 1 := place_succ h
  -- An instruction that is no fork goes on behind itself or where it says.
  have plain : (∀ q r, instr ≠ .fork q r) →
      (Turn (layout parts) text (place parts n, i) choices saves (q, j) ↔
        choices = [] ∧ Step (layout parts) text (place parts n, i) saves (q, j)) ∧
      ∀ m, Turn (steps parts) text (n, i) choices saves (m, j) ↔
        choices = [] ∧ Step (steps parts) text (n, i) saves (m, j) := by
    intro hfork
    refine ⟨turn_iff_step fun q r => ?_, fun m => turn_iff_step fun q r => ?_⟩
    · rw [hlayout]
      cases instr <;> simp_all [Instr.retarget]
    · rw [hsteps]
      exact fun heq => hfork q r (Option.some.inj heq)
  cases instr with
  | char c =>
      obtain ⟨hturn, hpart⟩ := plain nofun
      simp only [hturn, hpart, step_char hlayout, step_char hsteps, Prod.mk.injEq]
      grind
  | set s =>
      obtain ⟨hturn, hpart⟩ := plain nofun
      simp only [hturn, hpart, step_set hlayout, step_set hsteps, Prod.mk.injEq]
      grind
  | look k =>
      obtain ⟨hturn, hpart⟩ := plain nofun
      simp only [hturn, hpart, step_look hlayout, step_look hsteps, Prod.mk.injEq]
      grind
  | save slot =>
      obtain ⟨hturn, hpart⟩ := plain nofun
      simp only [hturn, hpart, step_save hlayout, step_save hsteps, Prod.mk.injEq]
      grind
  | jump target =>
      obtain ⟨hturn, hpart⟩ := plain nofun
      simp only [hturn, hpart, step_jump hlayout, step_jump hsteps, Prod.mk.injEq]
      grind
  | fork first second =>
      simp only [turn_fork hlayout, turn_fork hsteps, Prod.mk.injEq]
      grind
  | accept =>
      obtain ⟨hturn, hpart⟩ := plain nofun
      simp only [hturn, hpart, not_step_accept hlayout, not_step_accept hsteps]
      simp

theorem Turn.le_length_parts (hparts : WellFormed parts)
    (h : Turn (steps parts) text a choices saves b) : b.1 ≤ parts.length := by
  have stays : StaysIn 0 (steps parts).length (steps parts) := by
    intro instr hinstr target htarget
    obtain ⟨part, hpart, rfl⟩ := List.mem_map.1 hinstr
    cases part with
    | single instr => exact ⟨Nat.zero_le _, by simpa [steps] using hparts _ hpart _ htarget⟩
    | region code => cases htarget
  simpa [steps] using h.le_length stays

/-- A way that goes on comes to its first spot. -/
theorem Trace.head_mem {code : List Instr} {spots : List Spot}
    (h : Trace code text a spots choices saves b) (hne : a ≠ b) : a ∈ spots := by
  cases h with
  | nil => exact absurd rfl hne
  | cons => exact List.mem_cons_self

namespace Leg

theorem start (h : Leg parts text a p b) : p.start = a.2 := by
  cases h <;> rfl

theorem stop (h : Leg parts text a p b) : p.stop = b.2 := by
  cases h <;> rfl

theorem nodup (h : Leg parts text a p b) : p.spots.Nodup := by
  cases h with
  | step => exact List.nodup_singleton _
  | region _ through => exact through.nodup

theorem exists_part (h : Leg parts text a p b) :
    ∃ part, parts[a.1]? = some part ∧ ∀ s ∈ p.spots, s.1 < part.length := by
  cases h with
  | step turn =>
      obtain ⟨instr, hpart⟩ := exists_part_of_turn turn
      exact ⟨_, hpart, by simp [Part.length]⟩
  | region hpart through => exact ⟨_, hpart, through.trace.lt_length⟩

theorem lt_length (h : Leg parts text a p b) : a.1 < parts.length := by
  obtain ⟨part, hpart, -⟩ := h.exists_part
  exact (List.getElem?_eq_some_iff.1 hpart).1

/-- An empty region is behind at once. -/
theorem of_empty (hempty : parts[a.1]? = some (.region [])) (h : Leg parts text a p b) :
    p.spots = [] ∧ b = (a.1 + 1, a.2) := by
  cases h with
  | step turn =>
      obtain ⟨instr, hpart⟩ := exists_part_of_turn turn
      cases hempty.symm.trans hpart
  | region hpart through =>
      cases hempty.symm.trans hpart
      obtain ⟨hspots, -, -, hend⟩ :=
        (trace_iff_of_not_turn fun _ _ _ => not_turn_none rfl).1 through.trace
      exact ⟨hspots, by rw [(Prod.mk.inj hend).2]⟩

/-- All other parts have a first place. -/
theorem head_mem (hne : parts[a.1]? ≠ some (.region [])) (h : Leg parts text a p b) :
    (0, a.2) ∈ p.spots := by
  cases h with
  | step => exact List.mem_singleton_self _
  | region hpart through =>
      refine through.trace.head_mem fun heq => hne ?_
      rw [hpart, List.length_eq_zero_iff.1 (Prod.mk.inj heq).1.symm]

/-- A leg through a single instruction stops elsewhere if it starts elsewhere. -/
theorem start_eq_of_stop_eq {instr : Instr} (hpart : parts[a.1]? = some (.single instr))
    (h : Leg parts text a p b) {a' : Spot} (ha : a'.1 = a.1) (h' : Leg parts text a' p' b')
    (hstop : p.stop = p'.stop) : p.start = p'.start := by
  cases h with
  | region hpart' => cases hpart.symm.trans hpart'
  | step turn =>
      cases h' with
      | region hpart' =>
          obtain rfl := ha
          cases hpart.symm.trans hpart'
      | step turn' =>
          obtain rfl := ha
          have hstep := turn.step
          have hstep' := turn'.step
          cases hstep <;> cases hstep' <;> grind [Instr.reads]

/-- **Two legs from one spot** are the same, or they part at a fork. -/
theorem compare (h : Leg parts text a p b) (h' : Leg parts text a p' b') :
    (p = p' ∧ b = b') ∨ Earlier p.choices p'.choices ∨ Earlier p'.choices p.choices := by
  cases h with
  | step turn =>
      cases h' with
      | step turn' =>
          rcases turn.compare turn' with ⟨rfl, rfl, rfl⟩ | hearlier
          · exact .inl ⟨rfl, rfl⟩
          · exact .inr hearlier
      | region hpart =>
          obtain ⟨instr, hpart'⟩ := exists_part_of_turn turn
          cases hpart.symm.trans hpart'
  | @region n code p hpart through =>
      generalize ha : (n, p.start) = a at h'
      cases h' with
      | step turn =>
          cases ha
          obtain ⟨instr, hpart'⟩ := exists_part_of_turn turn
          cases hpart.symm.trans hpart'
      | region hpart' through' =>
          obtain ⟨rfl, hstart⟩ := Prod.mk.inj ha
          cases hpart.symm.trans hpart'
          rcases through.compare through' hstart with rfl | hearlier
          · exact .inl ⟨rfl, rfl⟩
          · exact .inr hearlier

/-- A leg is a way through the instructions of its part. -/
theorem trace (hparts : WellFormed parts) (h : Leg parts text a p b) :
    Trace (layout parts) text (place parts a.1, a.2) (p.spots.map (Spot.move (place parts a.1)))
      p.choices p.saves (place parts b.1, b.2) := by
  cases h with
  | step turn =>
      obtain ⟨instr, hpart⟩ := exists_part_of_turn turn
      have hturn := (turn_layout_iff hpart).2 ⟨b.1, rfl, turn⟩
      simpa [Spot.move] using Trace.cons hturn (.nil _)
  | region hpart through =>
      have htrace := (hparts.placed hpart).trace through.trace
      rw [place_succ hpart]
      exact htrace

end Leg

/-! ### Legs through the kinds of parts -/

theorem leg_region_iff {code : List Instr} (h : parts[n]? = some (.region code)) :
    Leg parts text (n, i) p b ↔ p.Through code text ∧ p.start = i ∧ b = (n + 1, p.stop) := by
  constructor
  · intro hleg
    cases hleg with
    | step turn =>
        obtain ⟨instr, hpart⟩ := exists_part_of_turn turn
        cases h.symm.trans hpart
    | region hpart hp =>
        cases h.symm.trans hpart
        exact ⟨hp, rfl, rfl⟩
  · rintro ⟨hp, rfl, rfl⟩
    exact .region h hp

theorem leg_single_iff {instr : Instr} (h : parts[n]? = some (.single instr)) :
    Leg parts text (n, i) p b ↔ ∃ choices saves, Turn (steps parts) text (n, i) choices saves b ∧
      p = ⟨i, [(0, i)], choices, saves, b.2⟩ := by
  constructor
  · intro hleg
    cases hleg with
    | step turn => exact ⟨_, _, turn, rfl⟩
    | region hpart => cases h.symm.trans hpart
  · rintro ⟨choices, saves, turn, rfl⟩
    exact .step turn

/-- The leg of an instruction that reads nothing. -/
def still (i : Nat) (choices : List Bool) (saves : List Save) : Passage :=
  ⟨i, [(0, i)], choices, saves, i⟩

theorem leg_fork_iff {q r : Nat} (h : parts[n]? = some (.single (.fork q r))) :
    Leg parts text (n, i) p b ↔
      p = still i [false] [] ∧ b = (q, i) ∨ p = still i [true] [] ∧ b = (r, i) := by
  rw [leg_single_iff h]
  simp only [turn_fork (getElem?_steps h)]
  constructor
  · rintro ⟨_, _, ⟨rfl, ⟨rfl, rfl⟩ | ⟨rfl, rfl⟩⟩, rfl⟩
    · exact .inl ⟨rfl, rfl⟩
    · exact .inr ⟨rfl, rfl⟩
  · rintro (⟨rfl, rfl⟩ | ⟨rfl, rfl⟩)
    · exact ⟨_, _, ⟨rfl, .inl ⟨rfl, rfl⟩⟩, rfl⟩
    · exact ⟨_, _, ⟨rfl, .inr ⟨rfl, rfl⟩⟩, rfl⟩

theorem leg_jump_iff {target : Nat} (h : parts[n]? = some (.single (.jump target))) :
    Leg parts text (n, i) p b ↔ p = still i [] [] ∧ b = (target, i) := by
  have hsteps := getElem?_steps h
  rw [leg_single_iff h]
  simp only [turn_iff_step (a := (n, i)) (show ∀ q r, (steps parts)[n]? ≠ some (.fork q r) by
    simp [hsteps]), step_jump hsteps]
  constructor
  · rintro ⟨_, _, ⟨rfl, rfl, rfl⟩, rfl⟩
    exact ⟨rfl, rfl⟩
  · rintro ⟨rfl, rfl⟩
    exact ⟨_, _, ⟨rfl, rfl, rfl⟩, rfl⟩

theorem leg_save_iff {slot : Nat} (h : parts[n]? = some (.single (.save slot))) :
    Leg parts text (n, i) p b ↔ p = still i [] [(slot, i)] ∧ b = (n + 1, i) := by
  rw [leg_single_iff h]
  simp only [passes_save (getElem?_steps h)]
  constructor
  · rintro ⟨_, _, ⟨-, rfl, rfl, rfl⟩, rfl⟩
    exact ⟨rfl, rfl⟩
  · rintro ⟨rfl, rfl⟩
    exact ⟨_, _, ⟨trivial, rfl, rfl, rfl⟩, rfl⟩

/-! ### Courses -/

namespace Course

variable {legs more : List (Nat × Passage)} {c : Spot}

theorem append (h : Course parts text a legs b) (h' : Course parts text b more c) :
    Course parts text a (legs ++ more) c := by
  induction h with
  | nil => exact h'
  | cons leg _ ih => exact .cons leg (ih h')

/-- A course can be cut at each of its legs. -/
theorem cut (h : Course parts text a legs c) (hn : (n, p) ∈ legs) :
    ∃ before after b, legs = before ++ (n, p) :: after ∧
      Course parts text a before (n, p.start) ∧ Leg parts text (n, p.start) p b ∧
      Course parts text b after c := by
  induction h with
  | nil => cases hn
  | @cons a b _ q legs leg later ih =>
      rcases List.mem_cons.1 hn with heq | hn
      · cases heq
        have ha : a = (a.1, p.start) := by rw [leg.start]
        exact ⟨[], legs, b, rfl, ha ▸ .nil a, ha ▸ leg, later⟩
      · obtain ⟨before, after, b', rfl, hbefore, hleg, hafter⟩ := ih hn
        exact ⟨_ :: before, after, b', rfl, .cons leg hbefore, hleg, hafter⟩

theorem exists_leg (h : Course parts text a legs c) {leg : Nat × Passage} (hleg : leg ∈ legs) :
    ∃ b, Leg parts text (leg.1, leg.2.start) leg.2 b := by
  obtain ⟨_, _, b, -, -, hleg, -⟩ := h.cut hleg
  exact ⟨b, hleg⟩

/-- Nothing leads on from behind the last part. -/
theorem of_length_le (h : Course parts text a legs c) (ha : parts.length ≤ a.1) :
    legs = [] ∧ c = a := by
  cases h with
  | nil => exact ⟨rfl, rfl⟩
  | cons leg => exact absurd leg.lt_length (Nat.not_lt.2 ha)

theorem trace (hparts : WellFormed parts) (h : Course parts text a legs c) :
    Trace (layout parts) text (place parts a.1, a.2) (joined parts i legs j).spots
      (joined parts i legs j).choices (joined parts i legs j).saves (place parts c.1, c.2) := by
  induction h with
  | nil => exact .nil _
  | cons leg _ ih => exact (leg.trace hparts).append ih

end Course

theorem course_length_iff {legs : List (Nat × Passage)} :
    Course parts text (parts.length, i) legs (parts.length, j) ↔ legs = [] ∧ i = j := by
  constructor
  · intro h
    obtain ⟨rfl, heq⟩ := h.of_length_le (Nat.le_refl _)
    exact ⟨rfl, (Prod.mk.inj heq).2.symm⟩
  · rintro ⟨rfl, rfl⟩
    exact .nil _

theorem course_cons_iff {legs : List (Nat × Passage)} (hn : n < parts.length) :
    Course parts text (n, i) legs (parts.length, j) ↔ ∃ p b rest, Leg parts text (n, i) p b ∧
      Course parts text b rest (parts.length, j) ∧ legs = (n, p) :: rest := by
  constructor
  · intro h
    generalize hfrom : (n, i) = a at h
    generalize hto : (parts.length, j) = c at h
    cases h with
    | nil =>
        have := (Prod.mk.inj (hfrom.trans hto.symm)).1
        omega
    | cons leg later =>
        subst hfrom hto
        exact ⟨_, _, _, leg, later, rfl⟩
  · rintro ⟨p, b, rest, leg, later, rfl⟩
    exact .cons leg later

/-- **A way through the instructions is a course through the parts.** -/
theorem exists_course (hparts : WellFormed parts) {n i j : Nat} {spots : List Spot}
    {choices : List Bool} {saves : List Save} (hn : n ≤ parts.length)
    (h : Trace (layout parts) text (place parts n, i) spots choices saves
      (place parts parts.length, j))
    (hnodup : spots.Nodup) :
    ∃ legs, Course parts text (n, i) legs (parts.length, j) ∧ ∀ start stop,
      spots = (joined parts start legs stop).spots ∧
      choices = (joined parts start legs stop).choices ∧
      saves = (joined parts start legs stop).saves := by
  -- An instruction takes a step, and an empty region comes before the next part.
  generalize hsize : spots.length * (parts.length + 1) + (parts.length - n) = size
  induction size using Nat.strongRecOn generalizing n i spots choices saves with
  | ind size ih =>
  subst hsize
  rcases Nat.lt_or_eq_of_le hn with hlt | rfl
  · obtain ⟨part, hpart⟩ : ∃ part, parts[n]? = some part := ⟨_, List.getElem?_eq_getElem hlt⟩
    have hsucc := place_succ hpart
    have hle : place parts (n + 1) ≤ place parts parts.length := place_le parts hlt
    cases part with
    | single instr =>
        rw [Part.length] at hsucc
        generalize hfrom : (place parts n, i) = a at h
        generalize hto : (place parts parts.length, j) = c at h
        cases h with
        | nil =>
            have := (Prod.mk.inj (hfrom.trans hto.symm)).1
            omega
        | @cons _ next _ spots choice more save rest turn later =>
            subst hfrom hto
            obtain ⟨q, k⟩ := next
            obtain ⟨m, rfl, hturn⟩ := (turn_layout_iff hpart).1 turn
            obtain ⟨legs, hcourse, hjoined⟩ := ih _ (by
              rw [List.length_cons, Nat.succ_mul]
              omega) (hturn.le_length_parts hparts) later (List.nodup_cons.1 hnodup).2 rfl
            refine ⟨_, .cons (.step hturn) hcourse, fun start stop => ?_⟩
            obtain ⟨hspots, hchoices, hsaves⟩ := hjoined start stop
            simp [joined, spotsOf, choicesOf, savesOf, hspots, hchoices, hsaves, Spot.move]
    | region code =>
        have hplaced := hparts.placed hpart
        rw [Part.length] at hsucc
        obtain ⟨inner, first, saves', k, outer, more, rest, hinner, houter, rfl, rfl, rfl⟩ :=
          (hplaced.trace_iff (by dsimp only; omega)).1 h
        rw [← hsucc] at houter
        obtain ⟨hinnerNodup, houterNodup, -⟩ := List.nodup_append.1 hnodup
        obtain ⟨legs, hcourse, hjoined⟩ := ih _ (by
          rw [List.length_append, Nat.add_mul]
          omega) hlt houter houterNodup rfl
        let p : Passage := ⟨i, inner, first, saves', k⟩
        have hp : p.Through code text := ⟨hinner, hinnerNodup.of_map _⟩
        refine ⟨(n, p) :: legs, .cons (.region hpart hp) hcourse, fun start stop => ?_⟩
        obtain ⟨hspots, hchoices, hsaves⟩ := hjoined start stop
        simp [joined, spotsOf, choicesOf, savesOf, hspots, hchoices, hsaves, p]
  · have hend : (layout parts).length ≤ place parts parts.length := by rw [length_layout]
    generalize hto : (place parts parts.length, j) = c at h
    cases h with
    | nil =>
        cases hto
        exact ⟨[], .nil _, fun _ _ => ⟨rfl, rfl, rfl⟩⟩
    | cons turn => exact absurd turn (not_turn_of_length_le hend)

/-! ### Legs in each other's way -/

theorem spotsOf_append (legs more : List (Nat × Passage)) :
    spotsOf parts (legs ++ more) = spotsOf parts legs ++ spotsOf parts more :=
  List.flatMap_append

theorem mem_spotsOf {legs : List (Nat × Passage)} {s : Spot} (hleg : (n, p) ∈ legs)
    (hs : s ∈ p.spots) : s.move (place parts n) ∈ spotsOf parts legs :=
  List.mem_flatMap.2 ⟨(n, p), hleg, List.mem_map_of_mem hs⟩

/-- **Two courses from one spot** come to the same spot or to the same end. -/
theorem Course.common {legs legs' : List (Nat × Passage)} {j' : Nat}
    (h : Course parts text (n, i) legs (parts.length, j))
    (h' : Course parts text (n, i) legs' (parts.length, j')) :
    j = j' ∨ ∃ s ∈ spotsOf parts legs, s ∈ spotsOf parts legs' := by
  -- Empty regions are behind at once, and then both are at one spot again.
  generalize hleft : parts.length - n = left
  induction left generalizing n legs legs' with
  | zero =>
      have hn : parts.length ≤ n := by omega
      obtain ⟨-, hend⟩ := h.of_length_le hn
      obtain ⟨-, hend'⟩ := h'.of_length_le hn
      exact .inl ((Prod.mk.inj hend).2.trans (Prod.mk.inj hend').2.symm)
  | succ left ih =>
      generalize hfrom : (n, i) = a at h h'
      generalize hto : (parts.length, j) = c at h
      generalize hto' : (parts.length, j') = c' at h'
      cases h with
      | nil =>
          have := (Prod.mk.inj (hfrom.trans hto.symm)).1
          omega
      | @cons _ b _ p legs leg later =>
          cases h' with
          | nil =>
              have := (Prod.mk.inj (hfrom.trans hto'.symm)).1
              omega
          | @cons _ b' _ p' legs' leg' later' =>
              subst hfrom hto hto'
              by_cases hempty : parts[n]? = some (.region [])
              · obtain ⟨hspots, rfl⟩ := leg.of_empty hempty
                obtain ⟨hspots', rfl⟩ := leg'.of_empty hempty
                rcases ih later later' (by dsimp only; omega) with hj | ⟨s, hs, hs'⟩
                · exact .inl hj
                · exact .inr ⟨s, List.mem_append_right _ hs, List.mem_append_right _ hs'⟩
              · exact .inr ⟨_, mem_spotsOf List.mem_cons_self (leg.head_mem hempty),
                  mem_spotsOf List.mem_cons_self (leg'.head_mem hempty)⟩

/-- **A course that comes back to a part at the same place of the text** comes to a spot twice. -/
theorem Course.not_nodup_of_return {round legs : List (Nat × Passage)} (hround : round ≠ [])
    (h : Course parts text (n, i) round (n, i))
    (h' : Course parts text (n, i) legs (parts.length, j)) :
    ¬(spotsOf parts (round ++ legs)).Nodup := by
  generalize hleft : parts.length - n = left
  induction left generalizing n round legs with
  | zero => exact absurd (h.of_length_le (by omega)).1 hround
  | succ left ih =>
      generalize hfrom : (n, i) = a at h h'
      generalize hback : a = back at h
      generalize hto : (parts.length, j) = c at h'
      cases h with
      | nil => exact absurd rfl hround
      | @cons _ b _ p round leg later =>
          cases h' with
          | nil =>
              have := (Prod.mk.inj (hfrom.trans hto.symm)).1
              omega
          | @cons _ b' _ p' legs leg' later' =>
              subst hback hfrom hto
              by_cases hempty : parts[n]? = some (.region [])
              · obtain ⟨hspots, rfl⟩ := leg.of_empty hempty
                obtain ⟨hspots', rfl⟩ := leg'.of_empty hempty
                -- From behind the empty region the course comes back there too.
                have hagain : Course parts text (n + 1, i) (round ++ [(n, p')]) (n + 1, i) :=
                  later.append (.cons leg' (.nil _))
                have := ih (by simp) hagain later' (by omega)
                simpa [spotsOf, hspots, hspots'] using this
              · intro hnodup
                have hdisjoint := (List.nodup_append.1 (spotsOf_append _ _ ▸ hnodup)).2.2
                exact hdisjoint _ (mem_spotsOf List.mem_cons_self (leg.head_mem hempty)) _
                  (mem_spotsOf List.mem_cons_self (leg'.head_mem hempty)) rfl

/-- Legs through one part that have a spot in common. -/
theorem exists_shared_iff {legs legs' : List (Nat × Passage)} {c c' a' : Spot}
    (h : Course parts text a legs c) (h' : Course parts text a' legs' c') :
    (∃ s ∈ spotsOf parts legs, s ∈ spotsOf parts legs') ↔
      ∃ leg ∈ legs, ∃ leg' ∈ legs', leg.1 = leg'.1 ∧ ∃ s ∈ leg.2.spots, s ∈ leg'.2.spots := by
  constructor
  · rintro ⟨s, hs, hs'⟩
    obtain ⟨leg, hleg, hs⟩ := List.mem_flatMap.1 hs
    obtain ⟨leg', hleg', hs'⟩ := List.mem_flatMap.1 hs'
    obtain ⟨x, hx, rfl⟩ := List.mem_map.1 hs
    obtain ⟨y, hy, heq⟩ := List.mem_map.1 hs'
    obtain ⟨b, hb⟩ := h.exists_leg hleg
    obtain ⟨b', hb'⟩ := h'.exists_leg hleg'
    obtain ⟨part, hpart, hlt⟩ := hb.exists_part
    obtain ⟨part', hpart', hlt'⟩ := hb'.exists_part
    obtain ⟨hplace, hi⟩ := Prod.mk.inj heq
    obtain ⟨hn, hxy⟩ := eq_of_place_add hpart' hpart (hlt' y hy) (hlt x hx) hplace
    have hsame : y = x := Prod.ext hxy hi
    exact ⟨leg, hleg, leg', hleg', hn.symm, x, hx, hsame ▸ hy⟩
  · rintro ⟨⟨n, p⟩, hleg, ⟨m, q⟩, hleg', hn, s, hs, hs'⟩
    obtain rfl : n = m := hn
    exact ⟨_, mem_spotsOf hleg hs, mem_spotsOf hleg' hs'⟩

/-- A leg and what leads on behind it. -/
theorem Leg.meets_cases {a' b' : Spot} {p' : Passage} (h : Leg parts text a p b) (ha : a'.1 = a.1)
    (h' : Leg parts text a' p' b') (hmeets : p.Meets p') :
    a = a' ∨ b = b' ∨ ∃ s ∈ p.spots, s ∈ p'.spots := by
  have hstart : p.start = p'.start → a = a' := fun heq =>
    Prod.ext ha.symm (by rw [← h.start, ← h'.start, heq])
  rcases hmeets with heq | heq | hshared
  · exact .inl (hstart heq)
  · obtain ⟨part, hpart, -⟩ := h.exists_part
    cases part with
    | single instr => exact .inl (hstart (h.start_eq_of_stop_eq hpart ha h' heq))
    | region code =>
        have behind : ∀ {a b : Spot} {p : Passage}, Leg parts text a p b →
            parts[a.1]? = some (.region code) → b = (a.1 + 1, p.stop) := by
          intro a b p hleg hpart
          cases hleg with
          | step turn =>
              obtain ⟨instr, hpart'⟩ := exists_part_of_turn turn
              cases hpart.symm.trans hpart'
          | region => rfl
        refine .inr (.inl ?_)
        rw [behind h hpart, behind h' (ha ▸ hpart), ha, heq]
  · exact .inr (.inr hshared)

/-- **Two courses get in each other's way** if two of their legs through one part do, or if they
start or stop at the same place. -/
theorem meets_joined_iff {legs legs' : List (Nat × Passage)} {i' j' : Nat}
    (h : Course parts text (0, i) legs (parts.length, j))
    (h' : Course parts text (0, i') legs' (parts.length, j')) :
    (joined parts i legs j).Meets (joined parts i' legs' j') ↔
      i = i' ∨ j = j' ∨ ∃ leg ∈ legs, ∃ leg' ∈ legs', leg.1 = leg'.1 ∧ leg.2.Meets leg'.2 := by
  constructor
  · rintro (hi | hj | hshared)
    · exact .inl hi
    · exact .inr (.inl hj)
    · obtain ⟨leg, hleg, leg', hleg', hn, hspots⟩ := (exists_shared_iff h h').1 hshared
      exact .inr (.inr ⟨leg, hleg, leg', hleg', hn, .inr (.inr hspots)⟩)
  · rintro (hi | hj | ⟨⟨n, p⟩, hp, ⟨m, q⟩, hq, hnm, hmeets⟩)
    · exact .inl hi
    · exact .inr (.inl hj)
    obtain rfl : n = m := hnm
    -- From a spot that both come to they have a spot or the end in common.
    have shared : ∀ {x : Spot} {rest rest' : List (Nat × Passage)}, rest <:+ legs → rest' <:+ legs' →
        Course parts text x rest (parts.length, j) → Course parts text x rest' (parts.length, j') →
        (joined parts i legs j).Meets (joined parts i' legs' j') := by
      rintro x rest rest' ⟨front, rfl⟩ ⟨front', rfl⟩ hrest hrest'
      rcases hrest.common hrest' with hj | ⟨s, hs, hs'⟩
      · exact .inr (.inl hj)
      · have hmem : s ∈ spotsOf parts (front ++ rest) := by
          rw [spotsOf_append]
          exact List.mem_append_right _ hs
        have hmem' : s ∈ spotsOf parts (front' ++ rest') := by
          rw [spotsOf_append]
          exact List.mem_append_right _ hs'
        exact .inr (.inr ⟨s, hmem, hmem'⟩)
    obtain ⟨before, after, b, rfl, -, hleg, hafter⟩ := h.cut hp
    obtain ⟨before', after', b', rfl, -, hleg', hafter'⟩ := h'.cut hq
    have hpart : ((n, q.start) : Spot).1 = ((n, p.start) : Spot).1 := rfl
    rcases hleg.meets_cases hpart hleg' hmeets with ha | rfl | hspots
    · exact shared (List.suffix_append ..) (List.suffix_append ..) (.cons hleg hafter)
        (ha ▸ .cons hleg' hafter')
    · exact shared ((List.suffix_cons ..).trans (List.suffix_append ..))
        ((List.suffix_cons ..).trans (List.suffix_append ..)) hafter hafter'
    · exact .inr (.inr ((exists_shared_iff h h').2 ⟨_, hp, _, hq, rfl, hspots⟩))

/-- **A course comes to no spot twice** if no two of its legs through one part get in each other's
way. -/
theorem nodup_joined_iff {legs : List (Nat × Passage)}
    (h : Course parts text a legs (parts.length, j)) :
    (spotsOf parts legs).Nodup ↔ Apart legs := by
  generalize hto : (parts.length, j) = c at h
  induction h with
  | nil => exact ⟨fun _ => .nil, fun _ => .nil⟩
  | @cons a b c p legs leg later ih =>
      subst hto
      have injective : Function.Injective (Spot.move (place parts a.1)) := by
        rintro ⟨x, i⟩ ⟨y, k⟩ heq
        obtain ⟨hx, hi⟩ := Prod.mk.inj heq
        exact Prod.ext (Nat.add_left_cancel hx) hi
      have head : spotsOf parts [(a.1, p)] = p.spots.map (Spot.move (place parts a.1)) := by
        simp [spotsOf]
      have single : Course parts text a [(a.1, p)] b := .cons leg (.nil _)
      have split : spotsOf parts ((a.1, p) :: legs) =
          spotsOf parts [(a.1, p)] ++ spotsOf parts legs := spotsOf_append [(a.1, p)] legs
      rw [Apart, List.pairwise_cons, ← Apart, ← ih rfl]
      constructor
      · intro hnodup
        obtain ⟨-, hlegs, hdisjoint⟩ := List.nodup_append.1 (split ▸ hnodup)
        refine ⟨fun ⟨m, q⟩ hq hn hmeets => ?_, hlegs⟩
        obtain ⟨before, after, b', rfl, hbefore, hleg', hafter⟩ := later.cut hq
        rcases leg.meets_cases hn.symm hleg' hmeets with ha | rfl | hspots
        · have hround : Course parts text a ((a.1, p) :: before) (m, q.start) := .cons leg hbefore
          rw [ha] at hround
          refine Course.not_nodup_of_return (List.cons_ne_nil _ _) hround (.cons hleg' hafter) ?_
          simpa [ha] using hnodup
        · have hround : before ++ [(m, q)] ≠ [] := by simp
          refine Course.not_nodup_of_return hround (hbefore.append (.cons hleg' (.nil _))) hafter ?_
          simpa using hlegs
        · obtain ⟨s, hs, hs'⟩ := (exists_shared_iff single later).2
            ⟨_, List.mem_singleton_self _, _, hq, hn, hspots⟩
          exact hdisjoint s hs s hs' rfl
      · rintro ⟨hapart, hlegs⟩
        rw [split, List.nodup_append]
        refine ⟨head ▸ leg.nodup.map injective, hlegs, ?_⟩
        rintro s hs _ hs' rfl
        obtain ⟨leg₁, hleg₁, leg₂, hleg₂, hn, hspots⟩ :=
          (exists_shared_iff single later).1 ⟨s, hs, hs'⟩
        obtain rfl := List.mem_singleton.1 hleg₁
        exact hapart leg₂ hleg₂ hn (.inr (.inr hspots))

/-- **The ways through the instructions are the courses through the parts.** -/
theorem through_layout_iff (hparts : WellFormed parts) :
    p.Through (layout parts) text ↔ ∃ legs,
      Course parts text (0, p.start) legs (parts.length, p.stop) ∧ Apart legs ∧
        p = joined parts p.start legs p.stop := by
  constructor
  · rintro ⟨htrace, hnodup⟩
    rw [length_layout] at htrace
    obtain ⟨legs, hcourse, hjoined⟩ := exists_course hparts (Nat.zero_le _) htrace hnodup
    obtain ⟨hspots, hchoices, hsaves⟩ := hjoined p.start p.stop
    have heq : p = joined parts p.start legs p.stop := by
      cases p
      simp_all [joined]
    rw [heq] at hnodup
    exact ⟨legs, hcourse, (nodup_joined_iff hcourse).1 hnodup, heq⟩
  · rintro ⟨legs, hcourse, hapart, heq⟩
    have htrace := hcourse.trace (i := p.start) (j := p.stop) hparts
    rw [← heq] at htrace
    refine ⟨by rwa [length_layout], ?_⟩
    rw [heq]
    exact (nodup_joined_iff hcourse).2 hapart

end

end ParamTemplate.Regex
