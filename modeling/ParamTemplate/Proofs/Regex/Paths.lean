/-
**The ways through a program are the runs of its expression.**

A way through a program goes from instruction to instruction and reads the text as it goes.  The
instructions of an expression are a region of the program with one way in, at its first place, and
one way out, behind its last.  A region carries a relation if two things hold: whatever is related
can be gone through, and whoever comes out on the other side has gone through something related.

The second half is the one with content.  Every region but those of repetitions is left in order, so
that a way through it is cut where the parts meet.  A loop can be gone round any number of times;
what makes its case go through is that a round takes at least one step, so that the number of steps
left gets smaller.

Main definitions:

* `Regex.Step`, `Regex.Path` — one step through a program along a text, and several;
* `Regex.Carries` — a region of a program carries a relation.

Main results:

* `Regex.Carries.loop` — a region that can be entered again carries any number of rounds;
* `Regex.carries_code` — **the instructions of an expression carry its runs**.
-/

import ParamTemplate.Proofs.Regex.Matching
import ParamTemplate.Regex.Search

set_option autoImplicit false

namespace ParamTemplate.Regex

/-! ### Steps -/

/-- A place of a program together with a place of the text. -/
abbrev Spot := Nat × Nat

/-- One step through a program along a text, with what is remembered on it. -/
inductive Step (code : List Instr) (text : List Char) : Spot → List Save → Spot → Prop where
  | read {instr : Instr} {p i : Nat} {c : Char} (instruction : code[p]? = some instr)
      (char : text[i]? = some c) (reads : instr.reads c) : Step code text (p, i) [] (p + 1, i + 1)
  | look {look : Look} {p i : Nat} (instruction : code[p]? = some (.look look))
      (holds : look.holdsAt text i) : Step code text (p, i) [] (p + 1, i)
  | save {slot p : Nat} (i : Nat) (instruction : code[p]? = some (.save slot)) :
      Step code text (p, i) [(slot, i)] (p + 1, i)
  | first {q r p : Nat} (i : Nat) (instruction : code[p]? = some (.fork q r)) :
      Step code text (p, i) [] (q, i)
  | second {q r p : Nat} (i : Nat) (instruction : code[p]? = some (.fork q r)) :
      Step code text (p, i) [] (r, i)
  | jump {q p : Nat} (i : Nat) (instruction : code[p]? = some (.jump q)) :
      Step code text (p, i) [] (q, i)

/-- A way through a program along a text. -/
def Path (code : List Instr) (text : List Char) (a : Spot) (saves : List Save) (b : Spot) : Prop :=
  ∃ n, Rounds (Step code text) n a saves b

section

variable {code : List Instr} {text : List Char}

namespace Path

variable {a b c : Spot} {saves rest : List Save}

theorem refl (a : Spot) : Path code text a [] a := ⟨0, .zero a⟩

theorem of_step (h : Step code text a saves b) : Path code text a saves b := ⟨1, .one h⟩

theorem trans (h : Path code text a saves b) (h' : Path code text b rest c) :
    Path code text a (saves ++ rest) c := by
  obtain ⟨n, hn⟩ := h
  obtain ⟨m, hm⟩ := h'
  exact ⟨n + m, hn.append hm⟩

end Path

/-- A way that ends behind the place where it starts takes a step. -/
theorem exists_step {n p i q j : Nat} {saves : List Save}
    (h : Rounds (Step code text) n (p, i) saves (q, j)) (hpq : p < q) :
    ∃ m b first rest, n = m + 1 ∧ Step code text (p, i) first b ∧
      Rounds (Step code text) m b rest (q, j) ∧ saves = first ++ rest := by
  cases h with
  | zero => exact absurd hpq (Nat.lt_irrefl p)
  | succ first rest => exact ⟨_, _, _, _, rfl, first, rest, rfl⟩

theorem step_char {c : Char} {p i : Nat} {saves : List Save} {b : Spot}
    (h : code[p]? = some (.char c)) :
    Step code text (p, i) saves b ↔ saves = [] ∧ b = (p + 1, i + 1) ∧ text[i]? = some c := by
  constructor
  · intro hstep
    cases hstep <;> simp_all [Instr.reads]
  · rintro ⟨rfl, rfl, hc⟩
    exact .read h hc (by simp [Instr.reads])

theorem step_set {s : CharSet} {p i : Nat} {saves : List Save} {b : Spot}
    (h : code[p]? = some (.set s)) :
    Step code text (p, i) saves b ↔
      saves = [] ∧ b = (p + 1, i + 1) ∧ ∃ c, text[i]? = some c ∧ s.contains c := by
  constructor
  · intro hstep
    cases hstep <;> simp_all [Instr.reads]
  · rintro ⟨rfl, rfl, c, hc, hs⟩
    exact .read h hc hs

theorem step_look {look : Look} {p i : Nat} {saves : List Save} {b : Spot}
    (h : code[p]? = some (.look look)) :
    Step code text (p, i) saves b ↔ saves = [] ∧ b = (p + 1, i) ∧ look.holdsAt text i := by
  constructor
  · intro hstep
    cases hstep <;> simp_all [Instr.reads]
  · rintro ⟨rfl, rfl, hlook⟩
    exact .look h hlook

theorem step_save {slot p i : Nat} {saves : List Save} {b : Spot}
    (h : code[p]? = some (.save slot)) :
    Step code text (p, i) saves b ↔ saves = [(slot, i)] ∧ b = (p + 1, i) := by
  constructor
  · intro hstep
    cases hstep <;> simp_all [Instr.reads]
  · rintro ⟨rfl, rfl⟩
    exact .save i h

theorem step_fork {q r p i : Nat} {saves : List Save} {b : Spot}
    (h : code[p]? = some (.fork q r)) :
    Step code text (p, i) saves b ↔ saves = [] ∧ (b = (q, i) ∨ b = (r, i)) := by
  constructor
  · intro hstep
    cases hstep <;> simp_all [Instr.reads]
  · rintro ⟨rfl, rfl | rfl⟩
    · exact .first i h
    · exact .second i h

theorem step_jump {q p i : Nat} {saves : List Save} {b : Spot}
    (h : code[p]? = some (.jump q)) :
    Step code text (p, i) saves b ↔ saves = [] ∧ b = (q, i) := by
  constructor
  · intro hstep
    cases hstep <;> simp_all [Instr.reads]
  · rintro ⟨rfl, rfl⟩
    exact .jump i h

theorem not_step_accept {p i : Nat} {saves : List Save} {b : Spot}
    (h : code[p]? = some .accept) : ¬Step code text (p, i) saves b := by
  intro hstep
  cases hstep with
  | read hcode _ hreads =>
      cases hcode.symm.trans h
      simp [Instr.reads] at hreads
  | look hcode | save _ hcode | first _ hcode | second _ hcode | jump _ hcode =>
      cases hcode.symm.trans h

/-! ### Regions -/

/-- **A region of a program carries a relation:** what is related can be gone through, and who gets
to the other side has gone through something related. -/
structure Carries (code : List Instr) (text : List Char) (start stop : Nat)
    (run : Nat → List Save → Nat → Prop) : Prop where
  le : start ≤ stop
  path {i j : Nat} {saves : List Save} :
    run i saves j → Path code text (start, i) saves (stop, j)
  cut {n i p j : Nat} {saves : List Save} :
    Rounds (Step code text) n (start, i) saves (p, j) → stop ≤ p →
      ∃ m k first rest, m ≤ n ∧ run i first k ∧
        Rounds (Step code text) m (stop, k) rest (p, j) ∧ saves = first ++ rest

namespace Carries

variable {start mid stop : Nat} {run run' : Nat → List Save → Nat → Prop}

theorem congr (h : Carries code text start stop run)
    (same : ∀ i saves j, run i saves j ↔ run' i saves j) : Carries code text start stop run' := by
  obtain rfl : run = run' := by
    funext i saves j
    exact propext (same i saves j)
  exact h

/-- The empty region carries what changes nothing. -/
theorem nil (start : Nat) : Carries code text start start fun i saves j => saves = [] ∧ j = i where
  le := Nat.le_refl start
  path := by
    rintro i _ _ ⟨rfl, rfl⟩
    exact .refl _
  cut {n i _ _ saves} hway _ := ⟨n, i, [], saves, Nat.le_refl n, ⟨rfl, rfl⟩, hway, rfl⟩

/-- Two regions, one behind the other. -/
theorem append (h : Carries code text start mid run) (h' : Carries code text mid stop run') :
    Carries code text start stop fun i saves j =>
      ∃ first k rest, run i first k ∧ run' k rest j ∧ saves = first ++ rest where
  le := Nat.le_trans h.le h'.le
  path := by
    rintro i j _ ⟨first, k, rest, hfirst, hrest, rfl⟩
    exact (h.path hfirst).trans (h'.path hrest)
  cut hway hp := by
    obtain ⟨m, k, first, _, hm, hfirst, hlater, rfl⟩ := h.cut hway (Nat.le_trans h'.le hp)
    obtain ⟨m', l, second, rest, hm', hsecond, hrest, rfl⟩ := h'.cut hlater hp
    exact ⟨m', l, first ++ second, rest, Nat.le_trans hm' hm,
      ⟨first, k, second, hfirst, hsecond, rfl⟩, hrest, (List.append_assoc ..).symm⟩

/-- The region of one instruction that goes on behind itself. -/
theorem instr (h : ∀ i saves b, Step code text (start, i) saves b ↔
      ∃ j, b = (start + 1, j) ∧ run i saves j) : Carries code text start (start + 1) run where
  le := Nat.le_succ start
  path hrun := .of_step ((h _ _ _).2 ⟨_, rfl, hrun⟩)
  cut hway hp := by
    obtain ⟨m, b, first, rest, rfl, hstep, hrest, rfl⟩ := exists_step hway hp
    obtain ⟨k, rfl, hrun⟩ := (h _ _ _).1 hstep
    exact ⟨m, k, first, rest, Nat.le_succ m, hrun, hrest, rfl⟩

/-- A region that is left by a jump. -/
theorem jump (h : Carries code text start mid run) (hjump : code[mid]? = some (.jump stop))
    (hlt : mid < stop) : Carries code text start stop run where
  le := Nat.le_trans h.le (Nat.le_of_lt hlt)
  path {i j saves} hrun := by
    have := (h.path hrun).trans (.of_step (.jump j hjump))
    rwa [List.append_nil] at this
  cut {n i p j saves} hway hp := by
    obtain ⟨m, k, first, later, hm, hrun, hlater, rfl⟩ := h.cut hway (by omega)
    obtain ⟨m', b, _, rest, rfl, hstep, hrest, rfl⟩ := exists_step hlater (by omega)
    obtain ⟨rfl, rfl⟩ := (step_jump hjump).1 hstep
    exact ⟨m', k, first, rest, by omega, hrun, hrest, rfl⟩

/-- Two regions between which a fork chooses. -/
theorem fork {q r : Nat} (hfork : code[start]? = some (.fork q r)) (hlt : start < stop)
    (h : Carries code text q stop run) (h' : Carries code text r stop run') :
    Carries code text start stop fun i saves j => run i saves j ∨ run' i saves j where
  le := Nat.le_of_lt hlt
  path {i j saves} hrun := by
    rcases hrun with hrun | hrun
    · exact (Path.of_step (.first i hfork)).trans (h.path hrun)
    · exact (Path.of_step (.second i hfork)).trans (h'.path hrun)
  cut {n i p j saves} hway hp := by
    obtain ⟨m, b, _, later, rfl, hstep, hlater, rfl⟩ := exists_step hway (by omega)
    obtain ⟨rfl, rfl | rfl⟩ := (step_fork hfork).1 hstep
    · obtain ⟨m', k, first, rest, hm, hrun, hrest, rfl⟩ := h.cut hlater hp
      exact ⟨m', k, first, rest, by omega, .inl hrun, hrest, rfl⟩
    · obtain ⟨m', k, first, rest, hm, hrun, hrest, rfl⟩ := h'.cut hlater hp
      exact ⟨m', k, first, rest, by omega, .inr hrun, hrest, rfl⟩

/-- The fork of a repetition, between a region and another. -/
theorem repeatFork {greedy : Bool} {enter leave : Nat}
    (hfork : code[start]? = some (repeatFork greedy enter leave)) (hlt : start < stop)
    (h : Carries code text enter stop run) (h' : Carries code text leave stop run') :
    Carries code text start stop fun i saves j => run i saves j ∨ run' i saves j := by
  cases greedy with
  | true => exact fork hfork hlt h h'
  | false => exact (fork hfork hlt h' h).congr fun _ _ _ => Or.comm

end Carries

/-! ### Loops -/

/-- From a place one can only go back to the start of a region or on to its other side, and
remembers nothing. -/
structure Turns (code : List Instr) (text : List Char) (place enter leave : Nat) : Prop where
  again (i : Nat) : Path code text (place, i) [] (enter, i)
  out (i : Nat) : Path code text (place, i) [] (leave, i)
  cut {n i p j : Nat} {saves : List Save} :
    Rounds (Step code text) n (place, i) saves (p, j) → leave ≤ p →
      ∃ m < n, Rounds (Step code text) m (enter, i) saves (p, j) ∨
        Rounds (Step code text) m (leave, i) saves (p, j)

namespace Turns

variable {place enter leave : Nat}

theorem fork {greedy : Bool} (hfork : code[place]? = some (repeatFork greedy enter leave))
    (hlt : place < leave) : Turns code text place enter leave := by
  have step : ∀ {i saves b}, Step code text (place, i) saves b ↔
      saves = [] ∧ (b = (enter, i) ∨ b = (leave, i)) := by
    intro i saves b
    cases greedy with
    | true => exact step_fork hfork
    | false => rw [step_fork (q := leave) (r := enter) hfork, Or.comm]
  refine ⟨fun i => .of_step (step.2 ⟨rfl, .inl rfl⟩), fun i => .of_step (step.2 ⟨rfl, .inr rfl⟩),
    fun {n i p j saves} hway hp => ?_⟩
  obtain ⟨m, b, _, rest, rfl, hstep, hrest, rfl⟩ := exists_step hway (by omega)
  obtain ⟨rfl, rfl | rfl⟩ := step.1 hstep
  · exact ⟨m, Nat.lt_succ_self m, .inl hrest⟩
  · exact ⟨m, Nat.lt_succ_self m, .inr hrest⟩

theorem jump {q : Nat} (hjump : code[place]? = some (.jump q)) (hlt : place < leave)
    (h : Turns code text q enter leave) : Turns code text place enter leave where
  again i := (Path.of_step (.jump i hjump)).trans (h.again i)
  out i := (Path.of_step (.jump i hjump)).trans (h.out i)
  cut {n i p j saves} hway hp := by
    obtain ⟨m, b, _, rest, rfl, hstep, hrest, rfl⟩ := exists_step hway (by omega)
    obtain ⟨rfl, rfl⟩ := (step_jump hjump).1 hstep
    obtain ⟨m', hm, hcut⟩ := h.cut hrest hp
    exact ⟨m', by omega, hcut⟩

end Turns

namespace Carries

variable {start stop place leave : Nat} {run : Nat → List Save → Nat → Prop}

/-- **A region that can be entered again carries any number of rounds.** -/
theorem loop (h : Carries code text start stop run) (turns : Turns code text stop start leave)
    (hle : stop ≤ leave) :
    Carries code text stop leave fun i saves j => ∃ n, Rounds run n i saves j where
  le := hle
  path {i j saves} hrun := by
    obtain ⟨n, hrounds⟩ := hrun
    induction hrounds with
    | zero i => exact turns.out i
    | succ first _ ih => exact (turns.again _).trans ((h.path first).trans ih)
  cut {n i p j saves} hway hp := by
    -- Every round takes a step at least, the one that turns.
    induction n using Nat.strongRecOn generalizing i saves with
    | ind n ih =>
        obtain ⟨m, hm, hagain | hout⟩ := turns.cut hway hp
        · obtain ⟨m', k, first, _, hm', hrun, hlater, rfl⟩ := h.cut hagain (by omega)
          obtain ⟨l, k', second, rest, hl, ⟨rounds, hrounds⟩, hrest, rfl⟩ :=
            ih m' (by omega) hlater
          exact ⟨l, k', first ++ second, rest, by omega, ⟨rounds + 1, .succ hrun hrounds⟩, hrest,
            (List.append_assoc ..).symm⟩
        · exact ⟨m, i, [], saves, Nat.le_of_lt hm, ⟨0, .zero i⟩, hout, rfl⟩

/-- A loop that is entered by a turn of its own. -/
theorem star (h : Carries code text start stop run) (turns : Turns code text stop start leave)
    (hle : stop ≤ leave) (entry : Turns code text place start leave) (hplace : place ≤ leave) :
    Carries code text place leave fun i saves j => ∃ n, Rounds run n i saves j where
  le := hplace
  path {i j saves} hrun := by
    obtain ⟨n, hrounds⟩ := hrun
    cases hrounds with
    | zero => exact entry.out i
    | succ first rest =>
        exact (entry.again i).trans ((h.path first).trans ((h.loop turns hle).path ⟨_, rest⟩))
  cut {n i p j saves} hway hp := by
    obtain ⟨m, hm, hagain | hout⟩ := entry.cut hway hp
    · obtain ⟨m', k, first, _, hm', hrun, hlater, rfl⟩ := h.cut hagain (by omega)
      obtain ⟨l, k', second, rest, hl, ⟨rounds, hrounds⟩, hrest, rfl⟩ :=
        (h.loop turns hle).cut hlater hp
      exact ⟨l, k', first ++ second, rest, by omega, ⟨rounds + 1, .succ hrun hrounds⟩, hrest,
        (List.append_assoc ..).symm⟩
    · exact ⟨m, i, [], saves, Nat.le_of_lt hm, ⟨0, .zero i⟩, hout, rfl⟩

end Carries

/-! ### Copies -/

variable {run : Nat → List Save → Nat → Prop}

theorem rounds_zero {i j : Nat} {saves : List Save} :
    Rounds run 0 i saves j ↔ saves = [] ∧ j = i := by
  constructor
  · intro h
    cases h
    exact ⟨rfl, rfl⟩
  · rintro ⟨rfl, rfl⟩
    exact .zero _

theorem rounds_add {m n i j : Nat} {saves : List Save} :
    Rounds run (m + n) i saves j ↔
      ∃ first k rest, Rounds run m i first k ∧ Rounds run n k rest j ∧ saves = first ++ rest := by
  constructor
  · intro h
    induction m generalizing i saves with
    | zero => exact ⟨[], i, saves, .zero i, by rwa [Nat.zero_add] at h, rfl⟩
    | succ m ih =>
        rw [Nat.succ_add] at h
        cases h with
        | succ hfirst hlater =>
            obtain ⟨second, k, rest, hsecond, hrest, rfl⟩ := ih hlater
            exact ⟨_, k, rest, .succ hfirst hsecond, hrest, (List.append_assoc ..).symm⟩
  · rintro ⟨first, k, rest, hfirst, hrest, rfl⟩
    exact hfirst.append hrest

theorem rounds_one {i j : Nat} {saves : List Save} : Rounds run 1 i saves j ↔ run i saves j := by
  constructor
  · intro h
    cases h with
    | succ hfirst hrest =>
        obtain ⟨rfl, rfl⟩ := rounds_zero.1 hrest
        rwa [List.append_nil]
  · exact .one

theorem copies_succ (body : Nat → List Instr) (once start count : Nat) :
    copies body once start (count + 1) =
      body start ++ copies body once (start + once) count := by
  simp only [copies, List.range_succ_eq_map, List.flatMap_cons, List.flatMap_map, Nat.zero_mul,
    Nat.add_zero]
  congr 2
  funext k
  rw [show start + (k + 1) * once = start + once + k * once by rw [Nat.succ_mul]; omega]

theorem copies_succ_last (body : Nat → List Instr) (once start count : Nat) :
    copies body once start (count + 1) =
      copies body once start count ++ body (start + count * once) := by
  simp [copies, List.range_succ, List.flatMap_append]

section

variable {body : Nat → List Instr} {once : Nat} (length : ∀ here, (body here).length = once)
  (carries : ∀ here, body here <+: code.drop here → Carries code text here (here + once) run)

include length carries

/-- Copies of a region carry as many rounds. -/
theorem carries_copies {start count : Nat} (h : copies body once start count <+: code.drop start) :
    Carries code text start (start + count * once) (Rounds run count) := by
  induction count generalizing start with
  | zero =>
      rw [Nat.zero_mul]
      exact (Carries.nil start).congr fun _ _ _ => rounds_zero.symm
  | succ count ih =>
      rw [copies_succ, append_isPrefix_drop, length] at h
      have rest := ih h.2
      rw [show start + once + count * once = start + (count + 1) * once by
        rw [Nat.succ_mul]; omega] at rest
      refine ((carries start h.1).append rest).congr fun i saves j => ?_
      rw [Nat.add_comm count 1, rounds_add]
      simp only [rounds_one]

/-- Copies of a region, each with a fork in front of it that may leave all that are left, carry at
most as many rounds. -/
theorem carries_options {greedy : Bool} {start stop count : Nat}
    (h : copies (fun here => repeatFork greedy (here + 1) stop :: body (here + 1)) (once + 1) start
      count <+: code.drop start) (hstop : stop = start + count * (once + 1)) :
    Carries code text start stop fun i saves j => ∃ n ≤ count, Rounds run n i saves j := by
  induction count generalizing start with
  | zero =>
      obtain rfl : stop = start := by simpa using hstop
      refine (Carries.nil stop).congr fun i saves j => ?_
      simp only [Nat.le_zero_eq, exists_eq_left, rounds_zero]
  | succ count ih =>
      rw [copies_succ, List.cons_append, cons_isPrefix_drop, append_isPrefix_drop, length,
        show start + (once + 1) = start + 1 + once by omega] at h
      obtain ⟨hfork, hbody, hrest⟩ := h
      rw [Nat.succ_mul] at hstop
      have rest := ih hrest (by omega)
      refine (Carries.repeatFork hfork (by omega) ((carries _ hbody).append rest)
        (Carries.nil stop)).congr fun i saves j => ?_
      constructor
      · rintro (⟨first, k, rest, hfirst, ⟨n, hn, hrounds⟩, rfl⟩ | ⟨rfl, rfl⟩)
        · exact ⟨n + 1, by omega, .succ hfirst hrounds⟩
        · exact ⟨0, Nat.zero_le _, .zero _⟩
      · rintro ⟨n, hn, hrounds⟩
        cases hrounds with
        | zero => exact .inr ⟨rfl, rfl⟩
        | succ hfirst hrest => exact .inl ⟨_, _, _, hfirst, ⟨_, by omega, hrest⟩, rfl⟩

/-- **The instructions of a repetition carry its rounds.** -/
theorem carries_repetition {min : Nat} {max : Option Nat} {greedy consumes : Bool} {start : Nat}
    (h : repetitionCode min max greedy consumes body once start <+: code.drop start) :
    Carries code text start (start + repetitionLength min max once) fun i saves j =>
      ∃ n, min ≤ n ∧ (∀ m, max = some m → n ≤ min ∨ n ≤ m) ∧ Rounds run n i saves j := by
  unfold repetitionCode at h
  split at h
  next =>
    -- At most once: a fork in front of the body.
    rw [cons_isPrefix_drop] at h
    obtain ⟨hfork, hbody⟩ := h
    rw [show start + repetitionLength 0 (some 1) once = start + 1 + once by
      simp only [repetitionLength]; omega]
    refine (Carries.repeatFork hfork (by omega) (carries _ hbody) (Carries.nil _)).congr
      fun i saves j => ?_
    constructor
    · rintro (hrun | ⟨rfl, rfl⟩)
      · exact ⟨1, by omega, by simp, .one hrun⟩
      · exact ⟨0, Nat.le_refl 0, by simp, .zero _⟩
    · rintro ⟨n, _, hn, hrounds⟩
      have := hn 1 rfl
      obtain rfl | rfl : n = 0 ∨ n = 1 := by omega
      · exact .inr (rounds_zero.1 hrounds)
      · exact .inl (rounds_one.1 hrounds)
  next =>
    -- Any number of times: a loop with a turn at its start and one at its end.
    simp only [List.cons_append, cons_isPrefix_drop, append_isPrefix_drop, length] at h
    obtain ⟨hfork, hbody, hend, _⟩ := h
    have entry : Turns code text start (start + 1) (start + once + 2) := .fork hfork (by omega)
    have turn : Turns code text (start + 1 + once) (start + 1) (start + once + 2) := by
      cases consumes with
      | true => exact .jump hend (by omega) entry
      | false => exact .fork hend (by omega)
    refine ((carries _ hbody).star turn (by omega) entry (by omega)).congr fun i saves j => ?_
    simp
  next _ hn =>
    -- At least once: copies, the last of which is entered again.
    obtain ⟨n, rfl⟩ : ∃ n, min = n + 1 := ⟨min - 1, by have := Nat.pos_of_ne_zero hn; omega⟩
    rw [append_isPrefix_drop, length_copies start _ length, cons_isPrefix_drop] at h
    obtain ⟨hcopies, hfork, _⟩ := h
    have last := hcopies
    rw [copies_succ_last, append_isPrefix_drop, length_copies start _ length] at last
    have again := carries _ last.2
    rw [Nat.add_sub_cancel] at hfork
    have hend : start + n * once + once = start + (n + 1) * once := by rw [Nat.succ_mul]; omega
    rw [hend] at again
    have more := again.loop (.fork hfork (by omega)) (by omega)
    refine ((carries_copies length carries hcopies).append more).congr fun i saves j => ?_
    simp only [reduceCtorEq, false_implies, implies_true, true_and]
    constructor
    · rintro ⟨first, k, rest, hfirst, ⟨l, hrest⟩, rfl⟩
      exact ⟨n + 1 + l, by omega, hfirst.append hrest⟩
    · rintro ⟨l, hl, hrounds⟩
      obtain ⟨extra, rfl⟩ := Nat.exists_eq_add_of_le hl
      obtain ⟨first, k, rest, hfirst, hrest, rfl⟩ := rounds_add.1 hrounds
      exact ⟨first, k, rest, hfirst, ⟨extra, hrest⟩, rfl⟩
  next _ m hn =>
    -- Some copies, and then others that can be left out.
    rw [append_isPrefix_drop, length_copies start _ length] at h
    obtain ⟨hcopies, hoptions⟩ := h
    have optional := carries_options length carries hoptions rfl
    have : repetitionLength min (some m) once = min * once + (m - min) * (once + 1) := by
      unfold repetitionLength
      split <;> simp_all
    rw [this, ← Nat.add_assoc]
    refine ((carries_copies length carries hcopies).append optional).congr fun i saves j => ?_
    constructor
    · rintro ⟨first, k, rest, hfirst, ⟨l, hl, hrest⟩, rfl⟩
      refine ⟨min + l, by omega, ?_, hfirst.append hrest⟩
      rintro _ ⟨⟩
      omega
    · rintro ⟨l, hl, hmax, hrounds⟩
      obtain ⟨extra, rfl⟩ := Nat.exists_eq_add_of_le hl
      obtain ⟨first, k, rest, hfirst, hrest, rfl⟩ := rounds_add.1 hrounds
      have := hmax m rfl
      exact ⟨first, k, rest, hfirst, ⟨extra, by omega, hrest⟩, rfl⟩

end

/-! ### Expressions -/

/-- The instructions of a text carry it. -/
theorem carries_text {chars : List Char} {start : Nat}
    (h : chars.map Instr.char <+: code.drop start) :
    Carries code text start (start + chars.length) fun i saves j =>
      saves = [] ∧ j = i + chars.length ∧ chars <+: text.drop i := by
  induction chars generalizing start with
  | nil => exact (Carries.nil start).congr fun i saves j => by simp
  | cons c chars ih =>
      rw [List.map_cons, cons_isPrefix_drop] at h
      obtain ⟨hchar, hrest⟩ := h
      have first : Carries code text start (start + 1) fun i saves j =>
          saves = [] ∧ j = i + 1 ∧ text[i]? = some c := .instr fun i saves b => by
        rw [step_char hchar]
        grind
      have all := first.append (ih hrest)
      rw [List.length_cons, show start + (chars.length + 1) = start + 1 + chars.length by omega]
      refine all.congr fun i saves j => ?_
      rw [cons_isPrefix_drop]
      constructor
      · rintro ⟨_, _, _, ⟨rfl, rfl, hc⟩, ⟨rfl, rfl, hchars⟩, rfl⟩
        exact ⟨rfl, by omega, hc, hchars⟩
      · rintro ⟨rfl, rfl, hc, hchars⟩
        exact ⟨[], i + 1, [], ⟨rfl, rfl, hc⟩, ⟨rfl, by omega, hchars⟩, rfl⟩

/-- The instruction that remembers a place. -/
theorem carries_save {slot start : Nat} (h : code[start]? = some (.save slot)) :
    Carries code text start (start + 1) fun i saves j => saves = [(slot, i)] ∧ j = i :=
  .instr fun i saves b => by
    rw [step_save h]
    grind

/-- **The instructions of an expression carry its runs.** -/
theorem carries_code {e : Expr} {start : Nat} (h : e.code start <+: code.drop start) :
    Carries code text start (start + e.codeLength) (e.Run text) := by
  induction e generalizing start with
  | empty => exact .nil start
  | text chars => exact carries_text h
  | set ascii s =>
      refine .instr fun i saves b => ?_
      rw [step_set (cons_isPrefix_drop.1 h).1]
      simp only [Expr.Run]
      grind
  | look k =>
      refine .instr fun i saves b => ?_
      rw [step_look (cons_isPrefix_drop.1 h).1]
      simp only [Expr.Run]
      grind
  | group index body ih =>
      simp only [Expr.code, List.cons_append, cons_isPrefix_drop, append_isPrefix_drop,
        Expr.length_code] at h
      obtain ⟨hopen, hbody, hclose, _⟩ := h
      have all := (carries_save hopen).append ((ih hbody).append (carries_save hclose))
      rw [Expr.codeLength, show start + (body.codeLength + 2) =
        start + 1 + body.codeLength + 1 by omega]
      refine all.congr fun i saves j => ?_
      simp only [Expr.Run]
      constructor
      · rintro ⟨_, _, _, ⟨rfl, rfl⟩, ⟨inner, _, _, hbody, ⟨rfl, rfl⟩, rfl⟩, rfl⟩
        exact ⟨inner, hbody, rfl⟩
      · rintro ⟨inner, hbody, rfl⟩
        exact ⟨_, i, _, ⟨rfl, rfl⟩, ⟨inner, j, _, hbody, ⟨rfl, rfl⟩, rfl⟩, rfl⟩
  | repetition min max greedy body ih =>
      exact carries_repetition body.length_code (fun _ => ih) h
  | cat left right ihl ihr =>
      rw [Expr.code, append_isPrefix_drop, Expr.length_code] at h
      rw [Expr.codeLength, ← Nat.add_assoc]
      exact (ihl h.1).append (ihr h.2)
  | alt left right ihl ihr =>
      simp only [Expr.code, List.cons_append, cons_isPrefix_drop, append_isPrefix_drop,
        Expr.length_code] at h
      obtain ⟨hfork, hleft, hjump, hright⟩ := h
      have second := ihr hright
      rw [Expr.codeLength, show start + (left.codeLength + right.codeLength + 2) =
        start + 1 + left.codeLength + 1 + right.codeLength by omega]
      exact .fork hfork (by omega) ((ihl hleft).jump hjump (by omega)) second

end

end ParamTemplate.Regex
