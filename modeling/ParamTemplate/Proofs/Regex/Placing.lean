/-
**The instructions of an expression go anywhere.**

Where the instructions of an expression stand in a program changes nothing but the places that they
name.  A way that enters them at the first one stays among them until it comes out behind the last
one, and in between it is the way that it would be without the program around.

So the ways through a program are those of its expression.  This is how the ways through a tied
expression are found: they are the ways of the expression through all of the text, with the same
choices in the same order.  The preferred one is the same too.

Main definitions:

* `Regex.Instr.move` — an instruction at another place;
* `Regex.Placed` — instructions that stand in a program and do not lead out of their midst;
* `Regex.Expr.Way` — a way through the instructions of an expression.

Main results:

* `Regex.Placed.trace_iff` — **a way through a program goes through the instructions of an
  expression as it would without the program**;
* `Regex.Expr.search_tied_eq_some_iff` — **the search for a tied expression finds the preferred one
  of the matches of the expression that cover the text.**
-/

import Mathlib.Data.List.Nodup
import ParamTemplate.Proofs.Regex.Groups
import ParamTemplate.Proofs.Regex.Preference
import ParamTemplate.Proofs.Regex.Tying

set_option autoImplicit false

namespace ParamTemplate.Regex

/-! ### Instructions at another place -/

/-- **An instruction at another place,** `d` places further on. -/
def Instr.move (d : Nat) : Instr → Instr
  | fork first second => fork (first + d) (second + d)
  | jump target => jump (target + d)
  | instr => instr

@[simp] theorem Instr.move_jump (d target : Nat) : (jump target).move d = jump (target + d) := rfl

@[simp] theorem Instr.move_fork (d first second : Nat) :
    (fork first second).move d = fork (first + d) (second + d) := rfl

/-- The places that an instruction names. -/
def Instr.targets : Instr → List Nat
  | .fork first second => [first, second]
  | .jump target => [target]
  | _ => []

@[simp] theorem move_repeatFork (d : Nat) (greedy : Bool) (enter leave : Nat) :
    (repeatFork greedy enter leave).move d = repeatFork greedy (enter + d) (leave + d) := by
  cases greedy <;> rfl

theorem copies_add {code code' : Nat → List Instr} {d : Nat}
    (h : ∀ start, code' (start + d) = (code start).map (Instr.move d)) (once start count : Nat) :
    copies code' once (start + d) count = (copies code once start count).map (Instr.move d) := by
  simp only [copies, List.map_flatMap, ← h, Nat.add_right_comm]

theorem repetitionCode_add {body : Nat → List Instr} {d : Nat}
    (h : ∀ start, body (start + d) = (body start).map (Instr.move d)) (min : Nat)
    (max : Option Nat) (greedy consumes : Bool) (once start : Nat) :
    repetitionCode min max greedy consumes body once (start + d) =
      (repetitionCode min max greedy consumes body once start).map (Instr.move d) := by
  unfold repetitionCode
  split
  next => simp [← h, Nat.add_right_comm]
  next => cases consumes <;> simp [← h, Nat.add_right_comm]
  next => simp [← copies_add h, Nat.add_right_comm]
  next n m _ =>
    have options : ∀ start stop count,
        copies (fun here => repeatFork greedy (here + 1) (stop + d) :: body (here + 1)) (once + 1)
          (start + d) count =
        (copies (fun here => repeatFork greedy (here + 1) stop :: body (here + 1)) (once + 1) start
          count).map (Instr.move d) := fun start stop count =>
      copies_add (fun here => by simp [← h, Nat.add_right_comm]) ..
    rw [List.map_append, ← copies_add h, ← options]
    simp only [Nat.add_right_comm]

/-- **The instructions of an expression at another place.** -/
theorem Expr.code_add (e : Expr) (start d : Nat) :
    e.code (start + d) = (e.code start).map (Instr.move d) := by
  induction e generalizing start with
  | empty | set | look => rfl
  | text chars => simp [code, Instr.move]
  | group index body ih => simp [code, Instr.move, ← ih, Nat.add_right_comm]
  | repetition min max greedy body ih => exact repetitionCode_add ih ..
  | cat left right ihl ihr => simp [code, ← ihl, ← ihr, Nat.add_right_comm]
  | alt left right ihl ihr => simp [code, Instr.move, ← ihl, ← ihr, Nat.add_right_comm]

/-! ### What instructions name -/

/-- Whether all places that instructions name lie between two places. -/
def StaysIn (start stop : Nat) (code : List Instr) : Prop :=
  ∀ instr ∈ code, ∀ target ∈ instr.targets, start ≤ target ∧ target ≤ stop

namespace StaysIn

variable {start start' stop stop' : Nat} {code more : List Instr} {instr : Instr}

@[simp] theorem nil : StaysIn start stop [] := List.forall_mem_nil _

@[simp] theorem cons_iff : StaysIn start stop (instr :: code) ↔
    (∀ target ∈ instr.targets, start ≤ target ∧ target ≤ stop) ∧ StaysIn start stop code :=
  List.forall_mem_cons

@[simp] theorem append_iff :
    StaysIn start stop (code ++ more) ↔ StaysIn start stop code ∧ StaysIn start stop more :=
  List.forall_mem_append

theorem mono (h : StaysIn start stop code) (hstart : start' ≤ start) (hstop : stop ≤ stop') :
    StaysIn start' stop' code := fun instr hinstr target htarget =>
  ⟨Nat.le_trans hstart (h instr hinstr target htarget).1,
    Nat.le_trans (h instr hinstr target htarget).2 hstop⟩

/-- Copies of instructions stay where they are put. -/
theorem copies {body : Nat → List Instr} {once count : Nat}
    (h : ∀ k < count, StaysIn start' stop' (body (start + k * once))) :
    StaysIn start' stop' (copies body once start count) := by
  intro instr hinstr
  obtain ⟨k, hk, hinstr⟩ := List.mem_flatMap.1 hinstr
  exact h k (List.mem_range.1 hk) instr hinstr

end StaysIn

theorem staysIn_repeatFork {start stop enter leave : Nat} (greedy : Bool)
    (henter : start ≤ enter ∧ enter ≤ stop) (hleave : start ≤ leave ∧ leave ≤ stop) :
    ∀ target ∈ (repeatFork greedy enter leave).targets, start ≤ target ∧ target ≤ stop := by
  cases greedy
  · simpa [repeatFork, Instr.targets] using ⟨hleave, henter⟩
  · simpa [repeatFork, Instr.targets] using ⟨henter, hleave⟩

theorem add_mul_le {k n : Nat} (once : Nat) (h : k < n) : k * once + once ≤ n * once := by
  rw [← Nat.succ_mul]
  exact Nat.mul_le_mul_right once h

theorem staysIn_repetitionCode {body : Nat → List Instr} {once : Nat}
    (h : ∀ start, StaysIn start (start + once) (body start)) (min : Nat) (max : Option Nat)
    (greedy consumes : Bool) (start : Nat) :
    StaysIn start (start + repetitionLength min max once)
      (repetitionCode min max greedy consumes body once start) := by
  unfold repetitionCode repetitionLength
  split
  next =>
    have fork : ∀ target ∈ (repeatFork greedy (start + 1) (start + 1 + once)).targets,
        start ≤ target ∧ target ≤ start + (once + 1) :=
      staysIn_repeatFork greedy (by omega) (by omega)
    exact StaysIn.cons_iff.2 ⟨fork, (h _).mono (by omega) (by omega)⟩
  next =>
    have fork : ∀ target ∈ (repeatFork greedy (start + 1) (start + once + 2)).targets,
        start ≤ target ∧ target ≤ start + (once + 2) :=
      staysIn_repeatFork greedy (by omega) (by omega)
    refine StaysIn.append_iff.2 ⟨StaysIn.cons_iff.2 ⟨fork, (h _).mono (by omega) (by omega)⟩, ?_⟩
    refine StaysIn.cons_iff.2 ⟨?_, StaysIn.nil⟩
    split
    · exact List.forall_mem_singleton.2 (by omega)
    · exact fork
  next =>
    have last : (min - 1) * once ≤ min * once := Nat.mul_le_mul_right once (Nat.sub_le min 1)
    refine StaysIn.append_iff.2 ⟨.copies fun k hk => ?_, StaysIn.cons_iff.2 ⟨?_, StaysIn.nil⟩⟩
    · have := add_mul_le once hk
      exact (h _).mono (by omega) (by omega)
    · exact staysIn_repeatFork greedy (by omega) (by omega)
  next n m _ =>
    refine StaysIn.append_iff.2 ⟨.copies fun k hk => ?_, .copies fun k hk => ?_⟩
    · have := add_mul_le once hk
      exact (h _).mono (by omega) (by omega)
    · have := add_mul_le (once + 1) hk
      exact StaysIn.cons_iff.2 ⟨staysIn_repeatFork greedy (by omega) (by omega),
        (h _).mono (by omega) (by omega)⟩

/-- **The instructions of an expression do not lead out of their midst.** -/
theorem Expr.staysIn_code (e : Expr) (start : Nat) :
    StaysIn start (start + e.codeLength) (e.code start) := by
  induction e generalizing start with
  | empty => exact StaysIn.nil
  | text chars =>
      intro instr hinstr
      obtain ⟨c, -, rfl⟩ := List.mem_map.1 hinstr
      exact List.forall_mem_nil _
  | set | look => exact StaysIn.cons_iff.2 ⟨List.forall_mem_nil _, StaysIn.nil⟩
  | group index body ih =>
      have inside : StaysIn start (start + (group index body).codeLength) (body.code (start + 1)) :=
        (ih _).mono (by omega) (by simp only [codeLength]; omega)
      exact StaysIn.append_iff.2 ⟨StaysIn.cons_iff.2 ⟨List.forall_mem_nil _, inside⟩,
        StaysIn.cons_iff.2 ⟨List.forall_mem_nil _, StaysIn.nil⟩⟩
  | repetition min max greedy body ih => exact staysIn_repetitionCode ih min max greedy _ start
  | cat left right ihl ihr =>
      simp only [code, codeLength]
      exact StaysIn.append_iff.2
        ⟨(ihl _).mono (by omega) (by omega), (ihr _).mono (by omega) (by omega)⟩
  | alt left right ihl ihr =>
      simp only [code, codeLength]
      refine StaysIn.append_iff.2 ⟨StaysIn.cons_iff.2 ⟨?_, (ihl _).mono (by omega) (by omega)⟩,
        StaysIn.cons_iff.2 ⟨?_, (ihr _).mono (by omega) (by omega)⟩⟩
      · simp only [Instr.targets, List.forall_mem_cons]
        exact ⟨by omega, by omega, List.forall_mem_nil _⟩
      · exact List.forall_mem_singleton.2 (by omega)

/-! ### Ways through instructions that are placed -/

/-- **Instructions that stand in a program** from a place on, and do not lead out of their midst. -/
structure Placed (part code : List Instr) (d : Nat) : Prop where
  staysIn : StaysIn 0 part.length part
  placed : part.map (Instr.move d) <+: code.drop d

theorem Expr.placed {e : Expr} {code : List Instr} {d : Nat} (h : e.code d <+: code.drop d) :
    Placed (e.code 0) code d where
  staysIn := by simpa using e.staysIn_code 0
  placed := by rwa [← Expr.code_add, Nat.zero_add]

/-- A spot at another place of the program. -/
def Spot.move (d : Nat) (s : Spot) : Spot := (d + s.1, s.2)

@[simp] theorem Spot.fst_move (d : Nat) (s : Spot) : (s.move d).1 = d + s.1 := rfl

@[simp] theorem Spot.snd_move (d : Nat) (s : Spot) : (s.move d).2 = s.2 := rfl

section

variable {code : List Instr} {text : List Char} {a b c : Spot} {spots later : List Spot}
  {choices more : List Bool} {saves rest : List Save}

theorem Turn.lt_length (h : Turn code text a choices saves b) : a.1 < code.length := by
  by_contra hlt
  exact not_turn_none (List.getElem?_eq_none (Nat.le_of_not_lt hlt)) h

/-- A step leads to one of the instructions or behind the last. -/
theorem Turn.le_length (h : Turn code text a choices saves b)
    (hstays : StaysIn 0 code.length code) : b.1 ≤ code.length := by
  have hlt := h.lt_length
  cases h.step with
  | read | look | save => exact hlt
  | first _ hcode | second _ hcode | jump _ hcode =>
      exact (hstays _ (List.mem_of_getElem? hcode) _ (by simp [Instr.targets])).2

/-- All spots of a way but the last stand at instructions. -/
theorem Trace.lt_length (h : Trace code text a spots choices saves b) :
    ∀ s ∈ spots, s.1 < code.length := by
  induction h with
  | nil => exact List.forall_mem_nil _
  | cons turn _ ih => exact List.forall_mem_cons.2 ⟨turn.lt_length, ih⟩

/-- A way ends in the text. -/
theorem Trace.le_text (h : Trace code text a spots choices saves b) (ha : a.2 ≤ text.length) :
    b.2 ≤ text.length := by
  induction h with
  | nil => exact ha
  | cons turn _ ih =>
      refine ih ?_
      cases turn.step with
      | read _ hc => exact (List.getElem?_eq_some_iff.1 hc).1
      | look | save | first | second | jump => exact ha

theorem Trace.append (h : Trace code text a spots choices saves b)
    (h' : Trace code text b later more rest c) :
    Trace code text a (spots ++ later) (choices ++ more) (saves ++ rest) c := by
  induction h with
  | nil => exact h'
  | cons turn _ ih =>
      rw [List.append_assoc, List.append_assoc]
      exact .cons turn (ih h')

end

namespace Placed

variable {part code : List Instr} {d : Nat} {text : List Char} {choices : List Bool}
  {saves : List Save} (h : Placed part code d)

include h

theorem getElem?_add {x : Nat} {instr : Instr} (hx : part[x]? = some instr) :
    code[d + x]? = some (instr.move d) := by
  obtain ⟨rest, hrest⟩ := h.placed
  have hlength : x < (part.map (Instr.move d)).length := by
    simpa using (List.getElem?_eq_some_iff.1 hx).1
  rw [← List.getElem?_drop, ← hrest, List.getElem?_append_left hlength, List.getElem?_map, hx,
    Option.map_some]

/-- **A step from one of the instructions** leads to another one of them or behind the last. -/
theorem turn_iff {x i p j : Nat} (hx : x < part.length) :
    Turn code text (d + x, i) choices saves (p, j) ↔
      d ≤ p ∧ p - d ≤ part.length ∧ Turn part text (x, i) choices saves (p - d, j) := by
  obtain ⟨instr, hinstr⟩ : ∃ instr, part[x]? = some instr := ⟨_, List.getElem?_eq_getElem hx⟩
  have hcode := h.getElem?_add hinstr
  have targets := h.staysIn instr (List.mem_of_getElem? hinstr)
  -- An instruction that is no fork goes on behind itself or where it says.
  have plain : (∀ q r, instr ≠ .fork q r) →
      (Turn code text (d + x, i) choices saves (p, j) ↔
        choices = [] ∧ Step code text (d + x, i) saves (p, j)) ∧
      ∀ y, Turn part text (x, i) choices saves (y, j) ↔
        choices = [] ∧ Step part text (x, i) saves (y, j) := by
    intro hfork
    refine ⟨turn_iff_step fun q r => ?_, fun y => turn_iff_step fun q r => ?_⟩
    · rw [hcode]
      cases instr <;> simp_all [Instr.move]
    · rw [hinstr]
      exact fun heq => hfork q r (Option.some.inj heq)
  cases instr with
  | char c =>
      obtain ⟨hturn, hpart⟩ := plain nofun
      simp only [hturn, hpart, step_char hcode, step_char hinstr, Prod.mk.injEq]
      grind
  | set s =>
      obtain ⟨hturn, hpart⟩ := plain nofun
      simp only [hturn, hpart, step_set hcode, step_set hinstr, Prod.mk.injEq]
      grind
  | look k =>
      obtain ⟨hturn, hpart⟩ := plain nofun
      simp only [hturn, hpart, step_look hcode, step_look hinstr, Prod.mk.injEq]
      grind
  | save slot =>
      obtain ⟨hturn, hpart⟩ := plain nofun
      simp only [hturn, hpart, step_save hcode, step_save hinstr, Prod.mk.injEq]
      grind
  | jump q =>
      obtain ⟨hturn, hpart⟩ := plain nofun
      have := targets q (List.mem_singleton_self q)
      simp only [hturn, hpart, step_jump hcode, step_jump hinstr, Prod.mk.injEq]
      grind
  | fork q r =>
      obtain ⟨hq, hr⟩ : q ≤ part.length ∧ r ≤ part.length := by
        simpa [Instr.targets] using targets
      simp only [turn_fork hcode, turn_fork hinstr, Prod.mk.injEq]
      grind
  | accept =>
      obtain ⟨hturn, hpart⟩ := plain nofun
      simp only [hturn, hpart, not_step_accept hcode, not_step_accept hinstr]
      simp

/-- A way through the instructions is a way through the program. -/
theorem trace {a b : Spot} {spots : List Spot} (htrace : Trace part text a spots choices saves b) :
    Trace code text (a.move d) (spots.map (Spot.move d)) choices saves (b.move d) := by
  induction htrace with
  | nil a => exact .nil _
  | @cons a b _ _ _ _ _ _ turn _ ih =>
      refine .cons ((h.turn_iff turn.lt_length).2 ⟨Nat.le_add_right .., ?_, ?_⟩) ih
      · rw [Nat.add_sub_cancel_left]
        exact turn.le_length h.staysIn
      · rwa [Nat.add_sub_cancel_left]

/-- **A way that enters the instructions and goes on behind them** goes through them first. -/
theorem cut {x i : Nat} {b : Spot} {spots : List Spot} (hx : x ≤ part.length)
    (hb : d + part.length ≤ b.1) (htrace : Trace code text (d + x, i) spots choices saves b) :
    ∃ inner first saves' k outer more rest,
      Trace part text (x, i) inner first saves' (part.length, k) ∧
      Trace code text (d + part.length, k) outer more rest b ∧
      spots = inner.map (Spot.move d) ++ outer ∧ choices = first ++ more ∧
      saves = saves' ++ rest := by
  generalize ha : (d + x, i) = a at htrace
  induction htrace generalizing x i with
  | nil =>
      subst ha
      obtain rfl : x = part.length := Nat.le_antisymm hx (by simpa using hb)
      exact ⟨[], [], [], i, [], [], [], .nil _, .nil _, rfl, rfl, rfl⟩
  | @cons _ next _ _ choice _ save _ turn later ih =>
      subst ha
      rcases Nat.lt_or_eq_of_le hx with hlt | rfl
      -- As long as the way is among the instructions, the next step does not lead out.
      · obtain ⟨hd, hle, hturn⟩ := (h.turn_iff hlt).1 turn
        obtain ⟨inner, first, saves', k, outer, more, rest, hinner, houter, rfl, rfl, rfl⟩ :=
          ih hle hb (by rw [Nat.add_sub_cancel' hd])
        exact ⟨(x, i) :: inner, choice ++ first, save ++ saves', k, outer, more, rest,
          .cons hturn hinner, houter, rfl, (List.append_assoc ..).symm,
          (List.append_assoc ..).symm⟩
      · exact ⟨[], [], [], i, _, _, _, .nil _, .cons turn later, rfl, rfl, rfl⟩

/-- **A way through a program** goes through instructions as it would without the program. -/
theorem trace_iff {i : Nat} {b : Spot} {spots : List Spot} (hb : d + part.length ≤ b.1) :
    Trace code text (d, i) spots choices saves b ↔
      ∃ inner first saves' k outer more rest,
        Trace part text (0, i) inner first saves' (part.length, k) ∧
        Trace code text (d + part.length, k) outer more rest b ∧
        spots = inner.map (Spot.move d) ++ outer ∧ choices = first ++ more ∧
        saves = saves' ++ rest := by
  constructor
  · exact h.cut (Nat.zero_le _) hb
  · rintro ⟨inner, first, saves', k, outer, more, rest, hinner, houter, rfl, rfl, rfl⟩
    exact (h.trace hinner).append houter

end Placed

/-! ### Between two instructions -/

/-- A place of a program from which there is one step, to the place behind it. -/
def Passes (code : List Instr) (text : List Char) (p : Nat) (holds : Nat → Prop)
    (saved : Nat → List Save) : Prop :=
  ∀ {i choices saves b}, Turn code text (p, i) choices saves b ↔
    holds i ∧ choices = [] ∧ saves = saved i ∧ b = (p + 1, i)

section

variable {code : List Instr} {text : List Char} {p q i j : Nat} {spots : List Spot}
  {choices : List Bool} {saves : List Save} {holds : Nat → Prop} {saved : Nat → List Save}

theorem passes_save {slot : Nat} (h : code[p]? = some (.save slot)) :
    Passes code text p (fun _ => True) fun i => [(slot, i)] := by
  intro i choices saves b
  rw [turn_iff_step (by simp [h]), step_save h, true_and]

theorem passes_look {look : Look} (h : code[p]? = some (.look look)) :
    Passes code text p (fun i => look.holdsAt text i) fun _ => [] := by
  intro i choices saves b
  rw [turn_iff_step (by simp [h]), step_look h]
  grind

theorem Passes.trace_iff (h : Passes code text p holds saved) (hne : p ≠ q) :
    Trace code text (p, i) spots choices saves (q, j) ↔ holds i ∧ ∃ later rest,
      spots = (p, i) :: later ∧ saves = saved i ++ rest ∧
      Trace code text (p + 1, i) later choices rest (q, j) := by
  constructor
  · intro htrace
    cases htrace with
    | nil => exact absurd rfl hne
    | cons turn later =>
        obtain ⟨hholds, rfl, rfl, rfl⟩ := h.1 turn
        exact ⟨hholds, _, _, rfl, rfl, later⟩
  · rintro ⟨hholds, later, rest, rfl, rfl, htrace⟩
    exact .cons (h.2 ⟨hholds, rfl, rfl, rfl⟩) htrace

theorem trace_iff_of_not_turn {a b : Spot}
    (h : ∀ choices saves c, ¬Turn code text a choices saves c) :
    Trace code text a spots choices saves b ↔ spots = [] ∧ choices = [] ∧ saves = [] ∧ b = a := by
  constructor
  · intro htrace
    cases htrace with
    | nil => exact ⟨rfl, rfl, rfl, rfl⟩
    | cons turn => exact absurd turn (h _ _ _)
  · rintro ⟨rfl, rfl, rfl, rfl⟩
    exact .nil _

end

namespace Expr

variable {e : Expr} {text : List Char} {i j : Nat} {choices : List Bool} {saves : List Save}

/-- **A way through the instructions of an expression,** which comes to no spot twice. -/
def Way (e : Expr) (text : List Char) (i : Nat) (choices : List Bool) (saves : List Save)
    (j : Nat) : Prop :=
  ∃ spots, Trace (e.code 0) text (0, i) spots choices saves (e.codeLength, j) ∧ spots.Nodup

/-- The spots of a way between two instructions. -/
theorem nodup_between {inner : List Spot} {d : Nat} (h : ∀ s ∈ inner, s.1 < d) :
    ((0, i) :: (inner.map (Spot.move 1) ++ [(1 + d, j)])).Nodup ↔ inner.Nodup := by
  have injective : Function.Injective (Spot.move 1) := by
    rintro ⟨p, i⟩ ⟨q, j⟩ heq
    obtain ⟨hp, hi⟩ := Prod.mk.inj heq
    exact Prod.ext (Nat.add_left_cancel hp) hi
  -- The instructions at both ends are not among those between them.
  have first : (0, i) ∉ inner.map (Spot.move 1) ++ [(1 + d, j)] := by
    simp [Spot.move, Nat.add_comm 1 d]
  have last : (1 + d, j) ∉ inner.map (Spot.move 1) := by
    rintro hmem
    obtain ⟨s, hs, heq⟩ := List.mem_map.1 hmem
    have := h s hs
    have := Nat.add_left_cancel (Prod.mk.inj heq).1
    omega
  rw [List.nodup_cons, List.nodup_append, List.nodup_map_iff injective]
  simp only [first, not_false_iff, true_and, List.nodup_singleton, List.mem_singleton]
  exact ⟨And.left, fun hinner => ⟨hinner, fun a ha b hb heq => last (hb ▸ heq ▸ ha)⟩⟩

/-- **A way through an expression between two instructions** is a way through the expression. -/
theorem way_between {before after : Instr} {rest : List Instr} {holds holds' : Nat → Prop}
    {saved saved' : Nat → List Save}
    (hbefore : Passes (before :: e.code 1 ++ after :: rest) text 0 holds saved)
    (hafter : Passes (before :: e.code 1 ++ after :: rest) text (1 + e.codeLength) holds' saved')
    (hrest : ∀ i choices saves b, ¬Turn (before :: e.code 1 ++ after :: rest) text
      (1 + e.codeLength + 1, i) choices saves b) :
    (∃ spots, Trace (before :: e.code 1 ++ after :: rest) text (0, i) spots choices saves
      (1 + e.codeLength + 1, j) ∧ spots.Nodup) ↔
    holds i ∧ holds' j ∧ ∃ inner, e.Way text i choices inner j ∧
      saves = saved i ++ inner ++ saved' j := by
  have placed : Placed (e.code 0) (before :: e.code 1 ++ after :: rest) 1 :=
    Expr.placed (by simp)
  simp only [hbefore.trace_iff (q := 1 + e.codeLength + 1) (by omega), Nat.zero_add]
  simp only [placed.trace_iff (b := (1 + e.codeLength + 1, j)) (by simp), length_code,
    hafter.trace_iff (q := 1 + e.codeLength + 1) (by omega), trace_iff_of_not_turn (hrest _)]
  constructor
  · rintro ⟨_, ⟨hi, _, _, rfl, rfl, inner, _, saves', k, _, _, _, hinner, ⟨hj, _, _, rfl, rfl, rfl,
      rfl, rfl, heq⟩, rfl, rfl, rfl⟩, hnodup⟩
    cases heq
    have hlt : ∀ s ∈ inner, s.1 < e.codeLength := by simpa using hinner.lt_length
    rw [List.append_nil, List.append_nil, ← List.append_assoc]
    exact ⟨hi, hj, saves', ⟨inner, hinner, (nodup_between hlt).1 hnodup⟩, rfl⟩
  · rintro ⟨hi, hj, saves', ⟨inner, hinner, hnodup⟩, rfl⟩
    have hlt : ∀ s ∈ inner, s.1 < e.codeLength := by simpa using hinner.lt_length
    refine ⟨(0, i) :: (inner.map (Spot.move 1) ++ [(1 + e.codeLength, j)]), ?_,
      (nodup_between hlt).2 hnodup⟩
    exact ⟨hi, _, _, rfl, List.append_assoc .., inner, choices, saves', j, _, [], saved' j, hinner,
      ⟨hj, [], [], rfl, (List.append_nil _).symm, rfl, rfl, rfl, rfl⟩, rfl,
      (List.append_nil _).symm, rfl⟩

theorem getElem?_behind (before : Instr) (rest : List Instr) (n : Nat) :
    (before :: e.code 1 ++ rest)[1 + e.codeLength + n]? = rest[n]? := by
  rw [List.getElem?_append_right (by simp; omega)]
  congr 1
  simp
  omega

/-- **A way through a program** is a way through its expression, between the ends of the match. -/
theorem way_program_iff : e.program.Way text i choices saves j ↔
    ∃ inner, e.Way text i choices inner j ∧ saves = (0, i) :: inner ++ [(1, j)] := by
  have code : e.program.code.toList = .save 0 :: e.code 1 ++ .save 1 :: [.accept] := by
    simp [program, wholeCode]
  have accept : (.save 0 :: e.code 1 ++ .save 1 :: [.accept])[1 + e.codeLength + 1]? =
      some .accept := getElem?_behind ..
  have last : e.program.Way text i choices saves j ↔
      ∃ spots, Trace e.program.code.toList text (0, i) spots choices saves
        (1 + e.codeLength + 1, j) ∧ spots.Nodup := by
    constructor
    · rintro ⟨spots, q, haccept, htrace, hnodup⟩
      have hq : q = 1 + e.codeLength + 1 := (eq_of_accept haccept).trans (by
        simp only [codeLength]
        omega)
      exact ⟨spots, hq ▸ htrace, hnodup⟩
    · rintro ⟨spots, htrace, hnodup⟩
      exact ⟨spots, _, by rwa [← Array.getElem?_toList, code], htrace, hnodup⟩
  rw [last, code, way_between (passes_save rfl) (passes_save (getElem?_behind _ _ 0))
    fun _ _ _ _ => not_turn_accept accept]
  simp

/-! ### Tied expressions -/

/-- The instructions of expressions, one after the other. -/
def codeAll : List Expr → Nat → List Instr
  | [], _ => []
  | e :: rest, start => e.code start ++ codeAll rest (start + e.codeLength)

theorem codeAll_append (es more : List Expr) (start : Nat) :
    codeAll (es ++ more) start =
      codeAll es start ++ codeAll more (start + (codeAll es start).length) := by
  induction es generalizing start with
  | nil => rfl
  | cons e es ih => simp [codeAll, ih, Nat.add_assoc]

theorem codeAll_factors (e : Expr) (start : Nat) : codeAll e.factors start = e.code start := by
  induction e generalizing start with
  | cat left right _ ih => rw [factors, codeAll, ih, code]
  | empty => rfl
  | text | set | look | group | repetition | alt => exact List.append_nil _

theorem code_chain (es : List Expr) (start : Nat) : (chain es).code start = codeAll es start := by
  induction es generalizing start with
  | nil => rfl
  | cons e es ih =>
      cases es with
      | nil => exact (List.append_nil _).symm
      | cons e' es =>
          change e.code start ++ (chain (e' :: es)).code _ = _
          rw [ih]
          rfl

theorem codeAll_consFactor (e : Expr) (es : List Expr) (start : Nat) :
    codeAll (consFactor e es) start = codeAll (e :: es) start := by
  unfold consFactor
  split
  next => simp [codeAll, code, codeLength, Nat.add_assoc]
  next => rfl

theorem codeAll_foldr_consFactor (es : List Expr) (start : Nat) :
    codeAll (es.foldr consFactor []) start = codeAll es start := by
  induction es generalizing start with
  | nil => rfl
  | cons e es ih => rw [List.foldr_cons, codeAll_consFactor, codeAll, ih, codeAll]

theorem codeAll_flatMap_factors (parts : List Expr) (start : Nat) :
    codeAll (parts.flatMap factors) start = codeAll parts start := by
  induction parts generalizing start with
  | nil => rfl
  | cons e parts ih =>
      rw [List.flatMap_cons, codeAll_append, codeAll_factors, ih, length_code, codeAll]

/-- **The instructions of a concatenation** are those of its parts. -/
theorem code_concat (parts : List Expr) (start : Nat) :
    (concat parts).code start = codeAll parts start := by
  rw [concat, code_chain, codeAll_foldr_consFactor, codeAll_flatMap_factors]

theorem code_tied (e : Expr) :
    e.tied.code 0 = .look .textStart :: e.code 1 ++ .look .textEnd :: [] := by
  simp [tied, code_concat, codeAll, code, codeLength]

/-- **A way through a tied expression** is a way of the expression through all of the text. -/
theorem way_tied_iff (hi : i ≤ text.length) : e.tied.Way text i choices saves j ↔
    i = 0 ∧ j = text.length ∧ e.Way text 0 choices saves text.length := by
  have length : e.tied.codeLength = 1 + e.codeLength + 1 := by
    rw [← length_code e.tied 0, code_tied]
    simp [Nat.add_comm]
  have stop :
      (.look .textStart :: e.code 1 ++ .look .textEnd :: [])[1 + e.codeLength + 1]? = none :=
    getElem?_behind ..
  rw [Way, code_tied, length, way_between (passes_look rfl) (passes_look (getElem?_behind _ _ 0))
    fun _ _ _ _ => not_turn_none stop]
  simp only [List.nil_append, List.append_nil, exists_eq_right']
  rw [Look.holdsAt_textStart hi, decide_eq_true_iff]
  constructor
  · rintro ⟨rfl, hend, spots, htrace, hnodup⟩
    rw [Look.holdsAt_textEnd (htrace.le_text hi), decide_eq_true_iff] at hend
    subst hend
    exact ⟨rfl, rfl, spots, htrace, hnodup⟩
  · rintro ⟨rfl, rfl, hway⟩
    rw [Look.holdsAt_textEnd (Nat.le_refl _)]
    exact ⟨rfl, decide_eq_true rfl, hway⟩

theorem way_program_tied_iff (hi : i ≤ text.length) : e.tied.program.Way text i choices saves j ↔
    i = 0 ∧ j = text.length ∧ e.program.Way text 0 choices saves text.length := by
  simp only [way_program_iff, way_tied_iff hi]
  constructor
  · rintro ⟨inner, ⟨rfl, rfl, hway⟩, rfl⟩
    exact ⟨rfl, rfl, inner, hway, rfl⟩
  · rintro ⟨rfl, rfl, inner, hway, rfl⟩
    exact ⟨inner, ⟨rfl, rfl, hway⟩, rfl⟩

/-- The largest number of a group is a bound for the numbers of all groups. -/
theorem maxGroup_le_iff {n : Nat} : e.maxGroup ≤ n ↔ ∀ number ∈ e.numbers, number ≤ n := by
  induction e with
  | empty | text | set | look => simp [maxGroup, numbers]
  | group index body ih => simp [maxGroup, numbers, ih]
  | repetition min max greedy body ih => exact ih
  | cat left right ihl ihr | alt left right ihl ihr =>
      rw [maxGroup, numbers, Nat.max_le, ihl, ihr, List.forall_mem_append]

theorem numbers_tied (e : Expr) : e.tied.numbers = e.numbers := by
  simp [tied, numbers_concat, numbers]

theorem blank_tied (e : Expr) : e.tied.program.blank = e.program.blank := by
  -- The slots are as many as the largest number asks for, and the numbers are the same.
  have bound : ∀ n, e.tied.maxGroup ≤ n ↔ e.maxGroup ≤ n := by
    intro n
    rw [maxGroup_le_iff, maxGroup_le_iff, numbers_tied]
  have maxGroup : e.tied.maxGroup = e.maxGroup :=
    Nat.le_antisymm ((bound _).2 (Nat.le_refl _)) ((bound _).1 (Nat.le_refl _))
  simp only [Program.blank, program, maxGroup]

/-- **The search for a tied expression** finds the preferred one of the matches of the expression
that cover the text. -/
theorem search_tied_eq_some_iff {slots : Slots} : e.tied.program.search text = some slots ↔
    ∃ saves, Preferred (fun choices saves => e.program.Way text 0 choices saves text.length) saves ∧
      slots = remember e.program.blank saves := by
  have ways : ∀ choices saves, (∃ j, e.tied.program.Way text 0 choices saves j) ↔
      e.program.Way text 0 choices saves text.length := by
    intro choices saves
    simp only [way_program_tied_iff (Nat.zero_le _), true_and, exists_eq_left]
  rw [Program.search_eq_some_iff, blank_tied]
  constructor
  · rintro ⟨i, saves, hi, -, hsaves, rfl⟩
    have hstart : i = 0 := by
      obtain ⟨choices, ⟨j, hway⟩, -⟩ := hsaves
      exact ((way_program_tied_iff hi).1 hway).1
    subst hstart
    exact ⟨saves, (Preferred.congr ways).1 hsaves, rfl⟩
  · rintro ⟨saves, hsaves, rfl⟩
    exact ⟨0, saves, Nat.zero_le _, fun k hk => absurd hk (Nat.not_lt_zero k),
      (Preferred.congr ways).2 hsaves, rfl⟩

end Expr

end ParamTemplate.Regex
