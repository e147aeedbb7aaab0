/-
**Greedy repetitions take what they can.**

A repetition of a set of characters is left at the fork in front of each round, after the choice to
go on; so its choices tell how many characters it takes, and the way that takes more of them is tried
first.  In a row of several repetitions the first one has the first choice: of two ways through the
row the one is tried first whose list of lengths is the greater one in the order of the dictionary.

Main definitions:

* `Regex.Expr.inRow` — expressions one after the other;
* `Regex.choicesFor` — the choices of greedy repetitions that take so many characters.

Main results:

* `Regex.Expr.way_group_iff`, `Regex.Expr.way_text_iff`, `Regex.Expr.way_star_iff` — ways through the
  parts of a row;
* `Regex.lt_of_earlier_choicesFor` — **the way that is tried first takes the greater lengths.**
-/

import ParamTemplate.Proofs.Regex.Choosing
import ParamTemplate.Proofs.Regex.Reader.Sequence
import ParamTemplate.Proofs.Regex.Surviving

set_option autoImplicit false

namespace ParamTemplate.Regex

/-! ### The order of choices -/

/-- **The choices of greedy repetitions** that take so many characters, one repetition after the
other. -/
def choicesFor (lengths : List Nat) : List Bool :=
  lengths.flatMap fun n => List.replicate n false ++ [true]

@[simp] theorem choicesFor_nil : choicesFor [] = [] := rfl

theorem choicesFor_cons (n : Nat) (lengths : List Nat) :
    choicesFor (n :: lengths) = List.replicate n false ++ true :: choicesFor lengths := by
  rw [choicesFor, List.flatMap_cons, List.append_assoc]
  rfl

/-- What is common in front does not matter for the order. -/
theorem Earlier.of_prepend {choices others first : List Bool}
    (h : Earlier (first ++ choices) (first ++ others)) : Earlier choices others := by
  induction first with
  | nil => exact h
  | cons choice first ih =>
      cases h with
      | cons _ later => exact ih later

/-- The repetition that takes more goes on where the other one is left. -/
theorem earlier_choicesFor {m n : Nat} (ms ns : List Nat) (h : n < m) :
    Earlier (choicesFor (m :: ms)) (choicesFor (n :: ns)) := by
  obtain ⟨k, rfl⟩ := Nat.exists_eq_add_of_lt h
  rw [choicesFor_cons, choicesFor_cons, Nat.add_assoc, ← List.replicate_append_replicate,
    List.append_assoc]
  exact (Earlier.part _ _).prepend _

/-- **The way that is tried first takes the greater lengths,** compared as in a dictionary. -/
theorem lt_of_earlier_choicesFor {ms ns : List Nat} (hlength : ms.length = ns.length)
    (h : Earlier (choicesFor ms) (choicesFor ns)) : ns < ms := by
  induction ms generalizing ns with
  | nil => cases h
  | cons m ms ih =>
      cases ns with
      | nil => cases hlength
      | cons n ns =>
          rw [List.cons_lt_cons_iff]
          rcases Nat.lt_trichotomy n m with hlt | rfl | hlt
          · exact .inl hlt
          · rw [choicesFor_cons, choicesFor_cons] at h
            cases h.of_prepend with
            | cons _ later => exact .inr ⟨rfl, ih (Nat.succ.inj hlength) later⟩
          · exact absurd h (earlier_choicesFor ns ms hlt).asymm

/-- The choices tell the lengths. -/
theorem eq_of_choicesFor {ms ns : List Nat} (h : choicesFor ms = choicesFor ns) : ms = ns := by
  induction ms generalizing ns with
  | nil =>
      cases ns with
      | nil => rfl
      | cons n ns => simp [choicesFor_cons] at h
  | cons m ms ih =>
      cases ns with
      | nil => simp [choicesFor_cons] at h
      | cons n ns =>
          rcases Nat.lt_trichotomy n m with hlt | rfl | hlt
          · exact absurd (h ▸ earlier_choicesFor ms ns hlt) Earlier.irrefl
          · simp only [choicesFor_cons, List.append_cancel_left_eq, List.cons.injEq,
              true_and] at h
            rw [ih h]
          · exact absurd (h ▸ earlier_choicesFor ns ms hlt) Earlier.irrefl

namespace Expr

variable {e body : Expr} {es more : List Expr} {text : List Char} {i j index : Nat}
  {choices : List Bool} {saves : List Save}

/-! ### Ways through a row -/

/-- **Expressions one after the other.** -/
def inRow (es : List Expr) : Expr := es.foldr .cat .empty

theorem inRow_code (es : List Expr) (start : Nat) : (inRow es).code start = codeAll es start := by
  induction es generalizing start with
  | nil => rfl
  | cons e es ih =>
      change e.code start ++ (inRow es).code (start + e.codeLength) = _
      rw [ih, codeAll]

theorem row_code (es : List Expr) (start : Nat) : (row es).code start = codeAll es start := by
  match es with
  | [] => rfl
  | [e] => exact (List.append_nil _).symm
  | e :: e' :: es => exact code_concat _ start

/-- A row that has been read is run like its parts, one after the other. -/
theorem way_row_iff :
    (row es).Way text i choices saves j ↔ (inRow es).Way text i choices saves j := by
  rw [← leading_code_iff, ← leading_code_iff, row_code, inRow_code]

theorem way_nil_iff :
    (inRow []).Way text i choices saves j ↔ choices = [] ∧ saves = [] ∧ j = i := by
  rw [← leading_code_iff]
  constructor
  · rintro ⟨p, ⟨htrace, -⟩, rfl, rfl, rfl, rfl⟩
    obtain ⟨-, hchoices, hsaves, hend⟩ :=
      (trace_iff_of_not_turn fun _ _ _ => not_turn_none rfl).1 htrace
    exact ⟨hchoices, hsaves, (Prod.mk.inj hend).2⟩
  · rintro ⟨rfl, rfl, rfl⟩
    exact ⟨⟨j, [], [], [], j⟩, ⟨.nil _, List.nodup_nil⟩, rfl, rfl, rfl, rfl⟩

/-- **A way through a row** is a way through its first part and one through the others. -/
theorem way_cons_iff : (inRow (e :: es)).Way text i choices saves j ↔
    ∃ first inner k more rest, e.Way text i first inner k ∧ (inRow es).Way text k more rest j ∧
      choices = first ++ more ∧ saves = inner ++ rest := by
  simp only [← leading_code_iff]
  constructor
  · rintro ⟨r, hr, rfl, rfl, rfl, rfl⟩
    obtain ⟨p, q, hp, hq, hmiddle, rfl⟩ := through_cat_iff.1 hr
    exact ⟨p.choices, p.saves, p.stop, q.choices, q.saves, ⟨p, hp, rfl, rfl, rfl, rfl⟩,
      ⟨q, hq, hmiddle.symm, rfl, rfl, rfl⟩, choices_andThen, saves_andThen⟩
  · rintro ⟨_, _, _, _, _, ⟨p, hp, rfl, rfl, rfl, rfl⟩, ⟨q, hq, hmiddle, rfl, rfl, rfl⟩, rfl, rfl⟩
    exact ⟨andThen e (inRow es) p q, through_cat_iff.2 ⟨p, q, hp, hq, hmiddle.symm, rfl⟩, rfl, rfl,
      choices_andThen, saves_andThen⟩

/-- **A way through a group** is a way through its body, the ends of which are remembered. -/
theorem way_group_iff : (group index body).Way text i choices saves j ↔
    ∃ inner, body.Way text i choices inner j ∧
      saves = (2 * index, i) :: inner ++ [(2 * index + 1, j)] := by
  simp only [← leading_code_iff]
  constructor
  · rintro ⟨q, hq, rfl, rfl, rfl, rfl⟩
    obtain ⟨p, hp, rfl⟩ := through_group_iff.1 hq
    exact ⟨p.saves, ⟨p, hp, rfl, rfl, choices_within.symm, rfl⟩, saves_within⟩
  · rintro ⟨_, ⟨p, hp, rfl, rfl, rfl, rfl⟩, rfl⟩
    exact ⟨within index body p, through_group_iff.2 ⟨p, hp, rfl⟩, rfl, rfl, choices_within,
      saves_within⟩

/-- A way through a character. -/
theorem way_text_iff {c : Char} : (Expr.text [c]).Way text i choices saves j ↔
    text[i]? = some c ∧ choices = [] ∧ saves = [] ∧ j = i + 1 := by
  rw [← leading_code_iff]
  constructor
  · rintro ⟨p, hp, rfl, rfl, rfl, rfl⟩
    obtain ⟨i, d, hd, hc, rfl⟩ := (stepsOver_text c text p).1 hp
    rw [CharSet.contains_single, decide_eq_true_iff] at hc
    exact ⟨hc ▸ hd, rfl, rfl, rfl⟩
  · rintro ⟨hc, rfl, rfl, rfl⟩
    exact ⟨_, (stepsOver_text c text _).2 ⟨i, c, hc, by simp, rfl⟩, rfl, rfl, rfl, rfl⟩

/-- **A way through characters in front of a row** finds them in the text. -/
theorem way_chars_append_iff {chars : List Char} :
    (inRow (chars.map (fun c => .text [c]) ++ es)).Way text i choices saves j ↔
      chars <+: text.drop i ∧ (inRow es).Way text (i + chars.length) choices saves j := by
  induction chars generalizing i choices saves with
  | nil => simp
  | cons c chars ih =>
      rw [List.map_cons, List.cons_append, way_cons_iff, cons_isPrefix_drop]
      simp only [way_text_iff, ih]
      rw [List.length_cons, Nat.add_comm chars.length, ← Nat.add_assoc]
      constructor
      · rintro ⟨_, _, _, more, rest, ⟨hc, rfl, rfl, rfl⟩, ⟨hchars, hway⟩, rfl, rfl⟩
        exact ⟨⟨hc, hchars⟩, hway⟩
      · rintro ⟨⟨hc, hchars⟩, hway⟩
        exact ⟨[], [], i + 1, choices, saves, ⟨hc, rfl, rfl, rfl⟩, ⟨hchars, hway⟩, rfl, rfl⟩

/-! ### Ways through a greedy repetition -/

/-- The instructions of a greedy repetition of a set. -/
def starCode (s : CharSet) : List Instr := [.fork 1 3, .set s, .jump 0]

theorem code_star_set {ascii : Bool} {s : CharSet} (hs : s.isEmpty = false) :
    (repetition 0 none true (.set ascii s)).code 0 = starCode s := by
  simp [code, codeLength, repetitionCode, repeatFork, consumes, minLength?, hs, starCode]

/-- How a way goes on at the fork: it is over, or a character is taken. -/
theorem trace_starCode_iff {s : CharSet} {spots : List Spot} :
    Trace (starCode s) text (0, i) spots choices saves (3, j) ↔
      spots = [(0, i)] ∧ choices = [true] ∧ saves = [] ∧ j = i ∨
      ∃ c later more, text[i]? = some c ∧ s.contains c ∧
        Trace (starCode s) text (0, i + 1) later more saves (3, j) ∧
        spots = (0, i) :: (1, i) :: (2, i + 1) :: later ∧ choices = false :: more := by
  have fork {i choices saves b} : Turn (starCode s) text (0, i) choices saves b ↔
      saves = [] ∧ (choices = [false] ∧ b = (1, i) ∨ choices = [true] ∧ b = (3, i)) :=
    turn_fork rfl
  have set {i choices saves b} : Turn (starCode s) text (1, i) choices saves b ↔
      choices = [] ∧ saves = [] ∧ b = (2, i + 1) ∧ ∃ c, text[i]? = some c ∧ s.contains c := by
    rw [turn_iff_step (by simp [starCode]), step_set rfl]
  have jump {i choices saves b} : Turn (starCode s) text (2, i) choices saves b ↔
      choices = [] ∧ saves = [] ∧ b = (0, i) := by
    rw [turn_iff_step (by simp [starCode]), step_jump rfl]
  have out : ∀ choices saves b, ¬Turn (starCode s) text (3, i) choices saves b :=
    fun _ _ _ => not_turn_none rfl
  constructor
  · intro htrace
    cases htrace with
    | cons turn later =>
        obtain ⟨rfl, ⟨rfl, rfl⟩ | ⟨rfl, rfl⟩⟩ := fork.1 turn
        · cases later with
          | cons turn later =>
              obtain ⟨rfl, rfl, rfl, c, hc, hs⟩ := set.1 turn
              cases later with
              | cons turn later =>
                  obtain ⟨rfl, rfl, rfl⟩ := jump.1 turn
                  exact .inr ⟨c, _, _, hc, hs, later, rfl, rfl⟩
        · obtain ⟨rfl, rfl, rfl, hend⟩ := (trace_iff_of_not_turn out).1 later
          exact .inl ⟨rfl, rfl, rfl, (Prod.mk.inj hend).2⟩
  · rintro (⟨rfl, rfl, rfl, rfl⟩ | ⟨c, later, more, hc, hs, htrace, rfl, rfl⟩)
    · exact .cons (fork.2 ⟨rfl, .inr ⟨rfl, rfl⟩⟩) (.nil _)
    · exact .cons (fork.2 ⟨rfl, .inl ⟨rfl, rfl⟩⟩) (.cons (set.2 ⟨rfl, rfl, rfl, c, hc, hs⟩)
        (.cons (jump.2 ⟨rfl, rfl, rfl⟩) htrace))

/-- The characters that a way takes. -/
theorem exists_value_of_trace {s : CharSet} {spots : List Spot}
    (h : Trace (starCode s) text (0, i) spots choices saves (3, j)) :
    ∃ value, value <+: text.drop i ∧ (∀ c ∈ value, s.contains c) ∧
      choices = List.replicate value.length false ++ [true] ∧ saves = [] ∧
      j = i + value.length := by
  generalize hn : spots.length = n
  induction n using Nat.strongRecOn generalizing i spots choices with
  | ind n ih =>
      rcases trace_starCode_iff.1 h with ⟨-, rfl, rfl, rfl⟩ |
        ⟨c, later, more, hc, hs, htrace, rfl, rfl⟩
      · exact ⟨[], List.nil_prefix, List.forall_mem_nil _, rfl, rfl, rfl⟩
      · obtain ⟨value, hvalue, hall, rfl, rfl, rfl⟩ :=
          ih later.length (by simp at hn; omega) htrace rfl
        refine ⟨c :: value, cons_isPrefix_drop.2 ⟨hc, hvalue⟩, List.forall_mem_cons.2 ⟨hs, hall⟩,
          rfl, rfl, ?_⟩
        rw [List.length_cons, Nat.add_assoc, Nat.add_comm 1]

/-- There is a way that takes some characters.  It goes on in the text, so it comes to no spot
twice. -/
theorem exists_trace_of_value {s : CharSet} {value : List Char} (hvalue : value <+: text.drop i)
    (hall : ∀ c ∈ value, s.contains c) : ∃ spots,
      Trace (starCode s) text (0, i) spots (List.replicate value.length false ++ [true]) []
        (3, i + value.length) ∧ spots.Nodup ∧ ∀ spot ∈ spots, i ≤ spot.2 ∧ spot ≠ (2, i) := by
  induction value generalizing i with
  | nil =>
      refine ⟨[(0, i)], trace_starCode_iff.2 (.inl ⟨rfl, rfl, rfl, rfl⟩), List.nodup_singleton _, ?_⟩
      simp
  | cons c value ih =>
      obtain ⟨hc, hvalue⟩ := cons_isPrefix_drop.1 hvalue
      obtain ⟨hs, hall⟩ := List.forall_mem_cons.1 hall
      obtain ⟨spots, htrace, hnodup, hspots⟩ := ih hvalue hall
      refine ⟨(0, i) :: (1, i) :: (2, i + 1) :: spots, trace_starCode_iff.2 (.inr
        ⟨c, spots, _, hc, hs, ?_, rfl, rfl⟩), ?_, ?_⟩
      · rwa [List.length_cons, ← Nat.add_assoc, Nat.add_right_comm]
      · have first : ∀ p, (p, i) ∉ spots := fun p hmem => by
          have := (hspots _ hmem).1
          omega
        have last : (2, i + 1) ∉ spots := fun hmem => (hspots _ hmem).2 rfl
        simp [first, last, hnodup]
      · simp only [List.forall_mem_cons]
        refine ⟨by simp, by simp, by simp, fun spot hspot => ?_⟩
        have := (hspots spot hspot).1
        refine ⟨by omega, ?_⟩
        rintro rfl
        omega

/-- **A way through a greedy repetition of a set** takes some characters of the set, and tells by its
choices how many. -/
theorem way_star_iff {ascii : Bool} {s : CharSet} (hs : s.isEmpty = false) :
    (repetition 0 none true (.set ascii s)).Way text i choices saves j ↔
      ∃ value, value <+: text.drop i ∧ (∀ c ∈ value, s.contains c) ∧
        choices = List.replicate value.length false ++ [true] ∧ saves = [] ∧
        j = i + value.length := by
  rw [← leading_code_iff, code_star_set hs]
  constructor
  · rintro ⟨p, ⟨htrace, -⟩, rfl, rfl, rfl, rfl⟩
    exact exists_value_of_trace htrace
  · rintro ⟨value, hvalue, hall, rfl, rfl, rfl⟩
    obtain ⟨spots, htrace, hnodup, -⟩ := exists_trace_of_value hvalue hall
    exact ⟨⟨i, spots, _, [], _⟩, ⟨htrace, hnodup⟩, rfl, rfl, rfl, rfl⟩

/-! ### What is found -/

/-- **A tied expression is found** if and only if there is a way through all of the text. -/
theorem isSome_search_tied_iff : (e.tied.program.search text).isSome ↔
    ∃ choices saves, e.Way text 0 choices saves text.length := by
  constructor
  · intro h
    obtain ⟨slots, hslots⟩ := Option.isSome_iff_exists.1 h
    obtain ⟨saves, ⟨choices, hway, -⟩, -⟩ := search_tied_eq_some_iff.1 hslots
    obtain ⟨inner, hway, -⟩ := way_program_iff.1 hway
    exact ⟨choices, inner, hway⟩
  · rintro ⟨choices, inner, hway⟩
    have tied : e.tied.program.Way text 0 choices ((0, 0) :: inner ++ [(1, text.length)])
        text.length :=
      (way_program_tied_iff (Nat.zero_le _)).2 ⟨rfl, rfl, way_program_iff.2 ⟨inner, hway, rfl⟩⟩
    have leftmost : Leftmost e.tied.program text 0 (e.tied.program.search text) :=
      Program.leftmost_search
    cases hsearch : e.tied.program.search text with
    | some slots => rfl
    | none =>
        rw [hsearch] at leftmost
        rcases leftmost with ⟨_, _, _, _, _, _, heq⟩ | ⟨hdead, -⟩
        · cases heq
        · exact absurd (ends_empty_iff.2 ⟨_, tied⟩) (hdead 0 (Nat.le_refl _) (Nat.zero_le _) _ _)

end Expr

end ParamTemplate.Regex
