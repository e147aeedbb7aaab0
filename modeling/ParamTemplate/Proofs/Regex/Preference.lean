/-
**The match that is found is the preferred one.**

At a fork the first place is to be tried before the second.  So of two ways through a program the
one is preferred that takes the first place where they part.  A way that comes back to a spot is
left out: it could have gone on from there when it came for the first time.

The search follows all ways at once, in the order in which they are to be tried.  When a place of
the program has been settled, the ways from there are not followed again: nothing comes of them that
would not have come of the first visit.  This is why ways have to be followed that avoid what was
settled before, and why nothing is lost by that: if no way leads on from a spot, no way is lost that
comes to it.

Main definitions:

* `Regex.Turn`, `Regex.Trace` — a step with the choice made on it, and a way with its spots;
* `Regex.Program.Way` — a way through a program that comes to no spot twice;
* `Regex.Earlier`, `Regex.Preferred` — which choices are tried first, and what comes of them;
* `Regex.Yields` — what comes of threads that are tried one after the other.

Main results:

* `Regex.Yields.settle` — **settling threads changes nothing in what comes of them**;
* `Regex.Program.search_eq_some_iff` — **the search finds the preferred one of the matches that
  start first.**
-/

import Mathlib.Data.Set.Insert
import ParamTemplate.Proofs.Regex.Searching

set_option autoImplicit false

namespace ParamTemplate.Regex

/-! ### Choices -/

/-- **Whether choices are tried before others:** where they part, they go on from the first place of
the fork and the others from the second. -/
inductive Earlier : List Bool → List Bool → Prop where
  | part (choices others : List Bool) : Earlier (false :: choices) (true :: others)
  | cons {choices others : List Bool} (choice : Bool) (later : Earlier choices others) :
      Earlier (choice :: choices) (choice :: others)

theorem Earlier.asymm {choices others : List Bool} (h : Earlier choices others) :
    ¬Earlier others choices := by
  induction h with
  | part => nofun
  | cons choice _ ih =>
      intro hback
      cases hback with
      | cons _ later => exact ih later

/-- **What comes of the preferred one of some ways:** all others are tried later. -/
def Preferred (ways : List Bool → List Save → Prop) (saves : List Save) : Prop :=
  ∃ choices, ways choices saves ∧ ∀ others saves', ways others saves' →
    (others = choices ∧ saves' = saves) ∨ Earlier choices others

/-- There is one preferred way at most. -/
theorem Preferred.unique {ways : List Bool → List Save → Prop} {saves saves' : List Save}
    (h : Preferred ways saves) (h' : Preferred ways saves') : saves = saves' := by
  obtain ⟨choices, hway, hfirst⟩ := h
  obtain ⟨choices', hway', hfirst'⟩ := h'
  rcases hfirst _ _ hway' with ⟨-, heq⟩ | hearlier
  · exact heq.symm
  · rcases hfirst' _ _ hway with ⟨-, heq⟩ | hearlier'
    · exact heq
    · exact absurd hearlier' hearlier.asymm

theorem Preferred.congr {ways ways' : List Bool → List Save → Prop} {saves : List Save}
    (same : ∀ choices saves, ways choices saves ↔ ways' choices saves) :
    Preferred ways saves ↔ Preferred ways' saves := by
  simp only [Preferred, same]

/-! ### Ways with their choices -/

/-- **A step with the choice made on it,** which is true for the second place of a fork; where there
is no fork there is no choice. -/
inductive Turn (code : List Instr) (text : List Char) :
    Spot → List Bool → List Save → Spot → Prop where
  | plain {a b : Spot} {saves : List Save} (step : Step code text a saves b)
      (single : ∀ q r, code[a.1]? ≠ some (.fork q r)) : Turn code text a [] saves b
  | first {q r p : Nat} (i : Nat) (instruction : code[p]? = some (.fork q r)) :
      Turn code text (p, i) [false] [] (q, i)
  | second {q r p : Nat} (i : Nat) (instruction : code[p]? = some (.fork q r)) :
      Turn code text (p, i) [true] [] (r, i)

/-- **A way through a program along a text,** with the spots on it before the last, the choices made
and what is remembered. -/
inductive Trace (code : List Instr) (text : List Char) :
    Spot → List Spot → List Bool → List Save → Spot → Prop where
  | nil (a : Spot) : Trace code text a [] [] [] a
  | cons {a b c : Spot} {spots : List Spot} {choices more : List Bool} {saves rest : List Save}
      (turn : Turn code text a choices saves b) (later : Trace code text b spots more rest c) :
      Trace code text a (a :: spots) (choices ++ more) (saves ++ rest) c

section

variable {code : List Instr} {text : List Char} {a b c : Spot} {p i : Nat} {spots : List Spot}
  {choices more : List Bool} {saves rest : List Save}

theorem Turn.step (h : Turn code text a choices saves b) : Step code text a saves b := by
  cases h with
  | plain step => exact step
  | first i hcode => exact .first i hcode
  | second i hcode => exact .second i hcode

theorem turn_fork {q r : Nat} (h : code[p]? = some (.fork q r)) :
    Turn code text (p, i) choices saves b ↔
      saves = [] ∧ (choices = [false] ∧ b = (q, i) ∨ choices = [true] ∧ b = (r, i)) := by
  constructor
  · intro hturn
    cases hturn with
    | plain _ single => exact absurd h (single q r)
    | first _ hcode =>
        cases hcode.symm.trans h
        exact ⟨rfl, .inl ⟨rfl, rfl⟩⟩
    | second _ hcode =>
        cases hcode.symm.trans h
        exact ⟨rfl, .inr ⟨rfl, rfl⟩⟩
  · rintro ⟨rfl, ⟨rfl, rfl⟩ | ⟨rfl, rfl⟩⟩
    · exact .first i h
    · exact .second i h

/-- Where there is no fork there is no choice. -/
theorem turn_iff_step (h : ∀ q r, code[a.1]? ≠ some (.fork q r)) :
    Turn code text a choices saves b ↔ choices = [] ∧ Step code text a saves b := by
  constructor
  · intro hturn
    cases hturn with
    | plain step => exact ⟨rfl, step⟩
    | first _ hcode | second _ hcode => exact absurd hcode (h _ _)
  · rintro ⟨rfl, hstep⟩
    exact .plain hstep h

theorem not_turn_accept (h : code[a.1]? = some .accept) : ¬Turn code text a choices saves b :=
  fun hturn => not_step_accept h hturn.step

theorem not_turn_none (h : code[a.1]? = none) : ¬Turn code text a choices saves b := by
  intro hturn
  cases hturn.step <;> simp_all

/-- No step leads back in the text. -/
theorem Turn.le (h : Turn code text a choices saves b) : a.2 ≤ b.2 := by
  cases h.step with
  | read => exact Nat.le_succ _
  | look | save | first | second | jump => exact Nat.le_refl _

/-- No way leads back in the text. -/
theorem Trace.le (h : Trace code text a spots choices saves b) :
    (∀ s ∈ spots, a.2 ≤ s.2) ∧ a.2 ≤ b.2 := by
  induction h with
  | nil a => exact ⟨List.forall_mem_nil _, Nat.le_refl _⟩
  | cons turn _ ih =>
      have hle := turn.le
      exact ⟨List.forall_mem_cons.2 ⟨Nat.le_refl _, fun s hs => Nat.le_trans hle (ih.1 s hs)⟩,
        Nat.le_trans hle ih.2⟩

/-- A way can be cut at each of its spots. -/
theorem Trace.cut (h : Trace code text a spots choices saves c) (hb : b ∈ spots) :
    ∃ spots' choices' saves', spots' <:+ spots ∧ Trace code text b spots' choices' saves' c := by
  induction h with
  | nil => cases hb
  | @cons a _ _ spots _ _ _ _ turn later ih =>
      rcases List.mem_cons.1 hb with rfl | hb
      · exact ⟨_, _, _, List.suffix_rfl, .cons turn later⟩
      · obtain ⟨spots', choices', saves', hsuffix, htrace⟩ := ih hb
        exact ⟨spots', choices', saves', hsuffix.trans (List.suffix_cons a spots), htrace⟩

end

section

variable {program : Program} {text : List Char} {a b : Spot} {avoid avoid' : Set Spot}
  {choices : List Bool} {saves : List Save}

/-- **A way through a program** from one place of the text to another, which comes to no spot
twice. -/
def Program.Way (program : Program) (text : List Char) (i : Nat) (choices : List Bool)
    (saves : List Save) (j : Nat) : Prop :=
  ∃ spots q, program.code[q]? = some .accept ∧
    Trace program.code.toList text (0, i) spots choices saves (q, j) ∧ spots.Nodup

/-- **A way from a spot to the end of a program,** which comes to no spot twice and to none of those
that are to be avoided. -/
def Ends (program : Program) (text : List Char) (avoid : Set Spot) (a : Spot)
    (choices : List Bool) (saves : List Save) : Prop :=
  ∃ spots last, program.code[last.1]? = some .accept ∧
    Trace program.code.toList text a spots choices saves last ∧
    spots.Nodup ∧ ∀ s ∈ last :: spots, s ∉ avoid

theorem ends_empty_iff {i : Nat} :
    Ends program text ∅ (0, i) choices saves ↔ ∃ j, program.Way text i choices saves j := by
  constructor
  · rintro ⟨spots, ⟨q, j⟩, haccept, htrace, hnodup, -⟩
    exact ⟨j, spots, q, haccept, htrace, hnodup⟩
  · rintro ⟨j, spots, q, haccept, htrace, hnodup⟩
    exact ⟨spots, (q, j), haccept, htrace, hnodup, fun _ _ => id⟩

/-- **How a way to the end begins:** it is at the end, or it takes a step and comes back no more. -/
theorem ends_iff : Ends program text avoid a choices saves ↔ a ∉ avoid ∧
    (program.code[a.1]? = some .accept ∧ choices = [] ∧ saves = [] ∨
      ∃ choice first b more rest, Turn program.code.toList text a choice first b ∧
        Ends program text (insert a avoid) b more rest ∧
        choices = choice ++ more ∧ saves = first ++ rest) := by
  constructor
  · rintro ⟨spots, last, haccept, htrace, hnodup, havoid⟩
    cases htrace with
    | nil => exact ⟨havoid a List.mem_cons_self, .inl ⟨haccept, rfl, rfl⟩⟩
    | @cons _ b _ spots choice more first rest turn later =>
        obtain ⟨ha, hnodup⟩ := List.nodup_cons.1 hnodup
        obtain ⟨hend, hspots⟩ := List.forall_mem_cons.1 havoid
        obtain ⟨hhere, hspots⟩ := List.forall_mem_cons.1 hspots
        refine ⟨hhere, .inr ⟨choice, first, b, more, rest, turn, ?_, rfl, rfl⟩⟩
        refine ⟨spots, last, haccept, later, hnodup, List.forall_mem_cons.2 ⟨?_, fun s hs => ?_⟩⟩
        · rintro (rfl | hmem)
          -- A spot with a step is not the end.
          · exact not_turn_accept (by rwa [Array.getElem?_toList]) turn
          · exact hend hmem
        · rintro (rfl | hmem)
          · exact ha hs
          · exact hspots s hs hmem
  · rintro ⟨ha, ⟨haccept, rfl, rfl⟩ | ⟨choice, first, b, more, rest, turn, hends, rfl, rfl⟩⟩
    · exact ⟨[], a, haccept, .nil a, List.nodup_nil, by simpa using ha⟩
    · obtain ⟨spots, last, haccept, htrace, hnodup, havoid⟩ := hends
      have out : ∀ s ∈ last :: spots, s ≠ a ∧ s ∉ avoid := fun s hs =>
        ⟨fun heq => havoid s hs (.inl heq), fun hmem => havoid s hs (.inr hmem)⟩
      refine ⟨a :: spots, last, haccept, .cons turn htrace, List.nodup_cons.2 ⟨?_, hnodup⟩, ?_⟩
      · exact fun hmem => (out a (List.mem_cons_of_mem _ hmem)).1 rfl
      · intro s hs
        rcases List.mem_cons.1 hs with rfl | hs
        · exact (out _ List.mem_cons_self).2
        · rcases List.mem_cons.1 hs with rfl | hs
          · exact ha
          · exact (out s (List.mem_cons_of_mem _ hs)).2

/-- What lies behind in the text need not be avoided. -/
theorem ends_congr (h : ∀ s : Spot, a.2 ≤ s.2 → (s ∈ avoid ↔ s ∈ avoid')) :
    Ends program text avoid a choices saves ↔ Ends program text avoid' a choices saves := by
  have imp : ∀ {avoid avoid' : Set Spot}, (∀ s : Spot, a.2 ≤ s.2 → (s ∈ avoid ↔ s ∈ avoid')) →
      Ends program text avoid a choices saves → Ends program text avoid' a choices saves := by
    rintro avoid avoid' h ⟨spots, last, haccept, htrace, hnodup, havoid⟩
    refine ⟨spots, last, haccept, htrace, hnodup, fun s hs => ?_⟩
    have hle : ∀ s ∈ last :: spots, a.2 ≤ s.2 :=
      List.forall_mem_cons.2 ⟨htrace.le.2, htrace.le.1⟩
    rw [← h s (hle s hs)]
    exact havoid s hs
  exact ⟨imp h, imp fun s hs => (h s hs).symm⟩

/-! ### Dead ends -/

/-- No way leads from a spot to the end. -/
def Dead (program : Program) (text : List Char) (avoid : Set Spot) (a : Spot) : Prop :=
  ∀ choices saves, ¬Ends program text avoid a choices saves

/-- **A dead end can be avoided:** no way is lost. -/
theorem Dead.ends_insert_iff (h : Dead program text avoid a) :
    Ends program text (insert a avoid) b choices saves ↔
      Ends program text avoid b choices saves := by
  constructor
  · rintro ⟨spots, last, haccept, htrace, hnodup, havoid⟩
    exact ⟨spots, last, haccept, htrace, hnodup, fun s hs hmem => havoid s hs (.inr hmem)⟩
  · rintro ⟨spots, last, haccept, htrace, hnodup, havoid⟩
    refine ⟨spots, last, haccept, htrace, hnodup, fun s hs => ?_⟩
    rintro (rfl | hmem)
    · -- A way that comes to the dead end would lead from there to the end.
      rcases List.mem_cons.1 hs with rfl | hs
      · exact h [] [] ⟨[], _, haccept, .nil _, List.nodup_nil, by
          simpa using havoid _ List.mem_cons_self⟩
      · obtain ⟨spots', choices', saves', hsuffix, htrace'⟩ := htrace.cut hs
        exact h choices' saves' ⟨spots', last, haccept, htrace', hnodup.sublist hsuffix.sublist,
          fun s hs => havoid s (List.cons_subset_cons _ hsuffix.subset hs)⟩
    · exact havoid s hs hmem

theorem dead_of_mem (h : a ∈ avoid) : Dead program text avoid a :=
  fun _ _ hends => (ends_iff.1 hends).1 h

theorem dead_of_stuck (haccept : program.code[a.1]? ≠ some .accept)
    (h : ∀ choice first b, ¬Turn program.code.toList text a choice first b) :
    Dead program text avoid a := by
  intro choices saves hends
  rcases (ends_iff.1 hends).2 with ⟨hcode, -⟩ | ⟨_, _, _, _, _, hturn, -⟩
  · exact haccept hcode
  · exact h _ _ _ hturn

/-! ### Spots where one step is possible -/

/-- A spot from which only one step is possible, without a choice. -/
structure Leads (program : Program) (text : List Char) (a : Spot) (first : List Save)
    (b : Spot) : Prop where
  accept : program.code[a.1]? ≠ some .accept
  turn {choice : List Bool} {saves : List Save} {c : Spot} :
    Turn program.code.toList text a choice saves c ↔ choice = [] ∧ saves = first ∧ c = b

namespace Leads

variable {first : List Save} (h : Leads program text a first b)

include h

theorem ends_iff (ha : a ∉ avoid) : Ends program text avoid a choices saves ↔
    ∃ rest, Ends program text (insert a avoid) b choices rest ∧ saves = first ++ rest := by
  rw [Regex.ends_iff]
  constructor
  · rintro ⟨-, ⟨haccept, -⟩ | ⟨choice, _, _, more, rest, turn, hends, rfl, rfl⟩⟩
    · exact absurd haccept h.accept
    · obtain ⟨rfl, rfl, rfl⟩ := h.turn.1 turn
      exact ⟨rest, hends, rfl⟩
  · rintro ⟨rest, hends, rfl⟩
    exact ⟨ha, .inr ⟨[], first, b, choices, rest, h.turn.2 ⟨rfl, rfl, rfl⟩, hends, rfl, rfl⟩⟩

theorem preferred (ha : a ∉ avoid) {rest : List Save}
    (hb : Preferred (Ends program text (insert a avoid) b) rest) :
    Preferred (Ends program text avoid a) (first ++ rest) := by
  obtain ⟨choices, hway, hfirst⟩ := hb
  refine ⟨choices, (h.ends_iff ha).2 ⟨rest, hway, rfl⟩, fun others saves' hends => ?_⟩
  obtain ⟨rest', hrest, rfl⟩ := (h.ends_iff ha).1 hends
  exact (hfirst others rest' hrest).imp_left fun ⟨heq, hsaves⟩ => ⟨heq, hsaves ▸ rfl⟩

theorem dead (ha : a ∉ avoid) (hb : Dead program text (insert a avoid) b) :
    Dead program text avoid a := by
  intro choices saves hends
  obtain ⟨rest, hends, -⟩ := (h.ends_iff ha).1 hends
  exact hb choices rest hends

end Leads

/-- At a fork a way goes on from the first place or from the second. -/
theorem ends_fork_iff {q r : Nat} (hcode : program.code[a.1]? = some (.fork q r)) (ha : a ∉ avoid) :
    Ends program text avoid a choices saves ↔
      (∃ more, choices = false :: more ∧
        Ends program text (insert a avoid) (q, a.2) more saves) ∨
      ∃ more, choices = true :: more ∧
        Ends program text (insert a avoid) (r, a.2) more saves := by
  have hfork : program.code.toList[a.1]? = some (.fork q r) := by rwa [Array.getElem?_toList]
  rw [ends_iff]
  constructor
  · rintro ⟨-, ⟨haccept, -⟩ | ⟨choice, first, b, more, rest, turn, hends, rfl, rfl⟩⟩
    · cases hcode.symm.trans haccept
    · obtain ⟨rfl, ⟨rfl, rfl⟩ | ⟨rfl, rfl⟩⟩ := (turn_fork hfork).1 turn
      · exact .inl ⟨more, rfl, hends⟩
      · exact .inr ⟨more, rfl, hends⟩
  · rintro (⟨more, rfl, hends⟩ | ⟨more, rfl, hends⟩)
    · exact ⟨ha, .inr ⟨_, _, _, more, saves, .first _ hfork, hends, rfl, rfl⟩⟩
    · exact ⟨ha, .inr ⟨_, _, _, more, saves, .second _ hfork, hends, rfl, rfl⟩⟩

theorem preferred_fork_first {q r : Nat} (hcode : program.code[a.1]? = some (.fork q r))
    (ha : a ∉ avoid) (h : Preferred (Ends program text (insert a avoid) (q, a.2)) saves) :
    Preferred (Ends program text avoid a) saves := by
  obtain ⟨choices, hway, hfirst⟩ := h
  refine ⟨false :: choices, (ends_fork_iff hcode ha).2 (.inl ⟨choices, rfl, hway⟩),
    fun others saves' hends => ?_⟩
  rcases (ends_fork_iff hcode ha).1 hends with ⟨more, rfl, hmore⟩ | ⟨more, rfl, -⟩
  · exact (hfirst more saves' hmore).imp (fun ⟨heq, hsaves⟩ => ⟨heq ▸ rfl, hsaves⟩) (.cons false)
  · exact .inr (.part choices more)

theorem preferred_fork_second {q r : Nat} (hcode : program.code[a.1]? = some (.fork q r))
    (ha : a ∉ avoid) (hdead : Dead program text (insert a avoid) (q, a.2))
    (h : Preferred (Ends program text (insert a avoid) (r, a.2)) saves) :
    Preferred (Ends program text avoid a) saves := by
  obtain ⟨choices, hway, hfirst⟩ := h
  refine ⟨true :: choices, (ends_fork_iff hcode ha).2 (.inr ⟨choices, rfl, hway⟩),
    fun others saves' hends => ?_⟩
  rcases (ends_fork_iff hcode ha).1 hends with ⟨more, -, hmore⟩ | ⟨more, rfl, hmore⟩
  · exact absurd hmore (hdead more saves')
  · exact (hfirst more saves' hmore).imp (fun ⟨heq, hsaves⟩ => ⟨heq ▸ rfl, hsaves⟩) (.cons true)

theorem dead_fork {q r : Nat} (hcode : program.code[a.1]? = some (.fork q r)) (ha : a ∉ avoid)
    (hfirst : Dead program text (insert a avoid) (q, a.2))
    (hsecond : Dead program text (insert a avoid) (r, a.2)) : Dead program text avoid a := by
  intro choices saves hends
  rcases (ends_fork_iff hcode ha).1 hends with ⟨more, -, hends⟩ | ⟨more, -, hends⟩
  · exact hfirst more saves hends
  · exact hsecond more saves hends

/-! ### What comes of threads -/

/-- **What comes of trying one spot and then others:** what the preferred way from the spot
remembers or, if there is no way from there, what comes of the others. -/
def Tries (program : Program) (text : List Char) (avoid : Set Spot) (a : Spot) (slots : Slots)
    (otherwise : Prop) (result : Option Slots) : Prop :=
  (∃ saves, Preferred (Ends program text avoid a) saves ∧ result = some (remember slots saves)) ∨
    Dead program text avoid a ∧ otherwise

/-- **What comes of threads that are tried one after the other,** and then of something else. -/
def Yields (program : Program) (text : List Char) (here : Nat) (avoid : Set Spot)
    (threads : List Thread) (next : Option Slots → Prop) (result : Option Slots) : Prop :=
  match threads with
  | [] => next result
  | thread :: rest =>
      Tries program text avoid (thread.place, here) thread.slots
        (Yields program text here avoid rest next result) result

variable {slots : Slots} {otherwise otherwise' : Prop} {result : Option Slots} {here : Nat}
  {threads rest : List Thread} {next next' : Option Slots → Prop}

theorem Tries.imp (h : Tries program text avoid a slots otherwise result)
    (himp : Dead program text avoid a → otherwise → otherwise') :
    Tries program text avoid a slots otherwise' result :=
  Or.imp_right (fun ⟨hdead, hother⟩ => ⟨hdead, himp hdead hother⟩) h

theorem tries_congr (h : ∀ choices saves, Ends program text avoid a choices saves ↔
      Ends program text avoid' b choices saves) :
    Tries program text avoid a slots otherwise result ↔
      Tries program text avoid' b slots otherwise result := by
  have dead : Dead program text avoid a ↔ Dead program text avoid' b := by simp only [Dead, h]
  rw [Tries, Tries, dead]
  simp only [Preferred.congr h]

/-- Where only one step is possible, what comes of it is what comes of the spot behind it. -/
theorem Leads.tries {first : List Save} (h : Leads program text a first b) (ha : a ∉ avoid)
    (htries : Tries program text (insert a avoid) b (remember slots first) otherwise result) :
    Tries program text avoid a slots otherwise result := by
  rcases htries with ⟨rest, hrest, rfl⟩ | ⟨hdead, hother⟩
  · exact .inl ⟨first ++ rest, h.preferred ha hrest, by rw [remember_append]⟩
  · exact .inr ⟨h.dead ha hdead, hother⟩

theorem tries_fork {q r : Nat} (hcode : program.code[a.1]? = some (.fork q r)) (ha : a ∉ avoid)
    (h : Tries program text (insert a avoid) (q, a.2) slots
      (Tries program text (insert a avoid) (r, a.2) slots otherwise result) result) :
    Tries program text avoid a slots otherwise result := by
  rcases h with ⟨saves, hsaves, rfl⟩ | ⟨hfirst, ⟨saves, hsaves, rfl⟩ | ⟨hsecond, hother⟩⟩
  · exact .inl ⟨saves, preferred_fork_first hcode ha hsaves, rfl⟩
  · exact .inl ⟨saves, preferred_fork_second hcode ha hfirst hsaves, rfl⟩
  · exact .inr ⟨dead_fork hcode ha hfirst hsecond, hother⟩

theorem tries_accept (haccept : program.code[a.1]? = some .accept) (ha : a ∉ avoid) :
    Tries program text avoid a slots otherwise (some slots) := by
  refine .inl ⟨[], ⟨[], ends_iff.2 ⟨ha, .inl ⟨haccept, rfl, rfl⟩⟩, fun others saves hends => ?_⟩,
    rfl⟩
  rcases (ends_iff.1 hends).2 with ⟨-, hothers⟩ | ⟨_, _, _, _, _, hturn, -⟩
  · exact .inl hothers
  · exact absurd hturn (not_turn_accept (by rwa [Array.getElem?_toList]))

namespace Yields

theorem imp (h : Yields program text here avoid threads next result)
    (himp : next result → next' result) : Yields program text here avoid threads next' result := by
  induction threads with
  | nil => exact himp h
  | cons thread rest ih => exact Tries.imp h fun _ => ih

theorem append_iff : Yields program text here avoid (threads ++ rest) next result ↔
    Yields program text here avoid threads (Yields program text here avoid rest next) result := by
  induction threads with
  | nil => rfl
  | cons thread threads ih => rw [List.cons_append, Yields, Yields, ih]

/-- **A dead end can be avoided** by all threads. -/
theorem of_insert (hdead : Dead program text avoid a)
    (h : Yields program text here (insert a avoid) threads next result) :
    Yields program text here avoid threads next result := by
  induction threads with
  | nil => exact h
  | cons thread rest ih =>
      exact ((tries_congr fun _ _ => hdead.ends_insert_iff).1 h).imp fun _ => ih

/-- **What comes of a thread** and then of others comes of it also if the others avoid its place. -/
theorem cons_of_tries {thread : Thread}
    (h : Tries program text avoid (thread.place, here) thread.slots
      (Yields program text here (insert (thread.place, here) avoid) rest next result) result) :
    Yields program text here avoid (thread :: rest) next result :=
  Tries.imp h of_insert

/-- A thread from which no way leads on is left out. -/
theorem cons_of_dead {thread : Thread} (hdead : Dead program text avoid (thread.place, here))
    (h : Yields program text here avoid rest next result) :
    Yields program text here avoid (thread :: rest) next result :=
  .inr ⟨hdead, h⟩

end Yields

/-! ### Settling -/

/-- The spots at a place of the text that have been settled. -/
def settledSpots (here : Nat) (marks : Array Bool) : Set Spot :=
  {s | s.2 = here ∧ marks[s.1]? = some true}

theorem settledSpots_set {marks : Array Bool} {p : Nat} (h : p < marks.size) :
    settledSpots here (marks.set p true h) = insert (p, here) (settledSpots here marks) := by
  ext ⟨q, i⟩
  simp only [settledSpots, Set.mem_ofPred_eq, Set.mem_insert_iff, Prod.mk.injEq,
    Array.getElem?_set]
  by_cases hq : p = q
  · subst hq
    simp only [if_true, and_true, true_and]
    exact ⟨.inl, fun hi => hi.elim id And.left⟩
  · simp only [if_neg hq, Ne.symm hq, false_and, false_or]

theorem settledSpots_replicate (size : Nat) :
    settledSpots here (Array.replicate size false) = ∅ := by
  ext ⟨q, i⟩
  simp [settledSpots, Array.getElem?_replicate]

/-- A waiting thread behind a place of the text, if it reads the character there. -/
def Program.readAt? (program : Program) (text : List Char) (here : Nat) (thread : Thread) :
    Option Thread :=
  text[here]?.bind (program.read? · thread)

/-- What comes after the threads that wait: the match that was found, or else something else. -/
def Falls (found : Option Slots) (next : Option Slots → Prop) (result : Option Slots) : Prop :=
  match found with
  | some slots => result = some slots
  | none => next result

/-- What comes of a thread that waits is what comes of it behind the character. -/
theorem tries_of_waiting {thread : Thread} {instr : Instr}
    (hcode : program.code[thread.place]? = some instr)
    (hwaits : ∀ choice saves b,
      Turn program.code.toList text (thread.place, here) choice saves b ↔
        choice = [] ∧ saves = [] ∧ b = (thread.place + 1, here + 1) ∧
          ∃ c, text[here]? = some c ∧ instr.reads c)
    (haccept : instr ≠ .accept) (ha : (thread.place, here) ∉ avoid)
    (havoid : ∀ s ∈ avoid, s.2 = here)
    (h : Yields program text (here + 1) ∅ (program.readAt? text here thread).toList
      (fun _ => otherwise) result) :
    Tries program text avoid (thread.place, here) thread.slots otherwise result := by
  have accept : program.code[thread.place]? ≠ some .accept := by simpa [hcode] using haccept
  have read : ∀ c, program.read? c thread =
      if instr.reads c then some { thread with place := thread.place + 1 } else none := by
    intro c
    simp [Program.read?, hcode]
  by_cases hreads : ∃ c, text[here]? = some c ∧ instr.reads c
  · obtain ⟨c, hc, hinstr⟩ := hreads
    have leads : Leads program text (thread.place, here) [] (thread.place + 1, here + 1) := by
      refine ⟨accept, fun {choice saves b} => ?_⟩
      rw [hwaits]
      constructor
      · rintro ⟨hchoice, hsaves, hb, -⟩
        exact ⟨hchoice, hsaves, hb⟩
      · rintro ⟨hchoice, hsaves, hb⟩
        exact ⟨hchoice, hsaves, hb, c, hc, hinstr⟩
    have behind : program.readAt? text here thread =
        some { thread with place := thread.place + 1 } := by
      simp [Program.readAt?, hc, read, hinstr]
    rw [behind] at h
    -- Behind the character none of the spots that were to be avoided is left.
    refine leads.tries ha ((tries_congr fun _ _ => ends_congr fun s hs => ?_).1 h)
    refine ⟨fun hmem => hmem.elim, ?_⟩
    rintro (rfl | hmem)
    · exact absurd hs (Nat.not_succ_le_self here)
    · exact absurd (havoid s hmem ▸ hs) (Nat.not_succ_le_self here)
  · refine .inr ⟨dead_of_stuck accept fun choice first b hturn => ?_, ?_⟩
    · exact hreads ((hwaits choice first b).1 hturn).2.2.2
    · have behind : program.readAt? text here thread = none := by
        simp only [Program.readAt?, Option.bind_eq_none_iff, read]
        intro c hc
        rw [if_neg fun hinstr => hreads ⟨c, hc, hinstr⟩]
      rwa [behind] at h

theorem not_mem_settledSpots {marks : Array Bool} {p : Nat} {h : p < marks.size}
    (hmark : marks[p] = false) : (p, here) ∉ settledSpots here marks := by
  rintro ⟨-, hmarked⟩
  cases hmark.symm.trans (Option.some.inj ((Array.getElem?_eq_getElem h).symm.trans hmarked))

/-- A thread that comes to wait is the last one of those that wait. -/
theorem Yields.of_waiting {marks : Array Bool} {settled : List Thread} {thread : Thread}
    {instr : Instr} {hplace : thread.place < marks.size} (hmark : marks[thread.place] = false)
    (hcode : program.code[thread.place]? = some instr)
    (hwaits : ∀ choice saves b,
      Turn program.code.toList text (thread.place, here) choice saves b ↔
        choice = [] ∧ saves = [] ∧ b = (thread.place + 1, here + 1) ∧
          ∃ c, text[here]? = some c ∧ instr.reads c)
    (haccept : instr ≠ .accept)
    (h : Yields program text (here + 1) ∅
      ((thread :: settled).reverse.filterMap (program.readAt? text here))
      (Yields program text here (settledSpots here (marks.set thread.place true hplace)) rest next)
      result) :
    Yields program text (here + 1) ∅ (settled.reverse.filterMap (program.readAt? text here))
      (Yields program text here (settledSpots here marks) (thread :: rest) next) result := by
  have last : [thread].filterMap (program.readAt? text here) =
      (program.readAt? text here thread).toList := by
    cases hread : program.readAt? text here thread <;> simp [hread]
  rw [List.reverse_cons, List.filterMap_append, append_iff, last, settledSpots_set] at h
  refine h.imp fun hrest => cons_of_tries ?_
  exact tries_of_waiting hcode hwaits haccept (not_mem_settledSpots hmark) (fun _ hs => hs.1)
    (hrest.imp id)

/-- A thread that goes on without a choice. -/
theorem Yields.of_leads {marks : Array Bool} {thread : Thread} {p : Nat} {first : List Save}
    {hplace : thread.place < marks.size} (hmark : marks[thread.place] = false)
    (leads : Leads program text (thread.place, here) first (p, here))
    (h : Yields program text here (settledSpots here (marks.set thread.place true hplace))
      ({ place := p, slots := remember thread.slots first } :: rest) next result) :
    Yields program text here (settledSpots here marks) (thread :: rest) next result := by
  rw [settledSpots_set] at h
  exact cons_of_tries (leads.tries (not_mem_settledSpots hmark) h)

/-- A thread that cannot go on. -/
theorem Yields.of_stuck {marks : Array Bool} {thread : Thread} {hplace : thread.place < marks.size}
    (haccept : program.code[thread.place]? ≠ some .accept)
    (hstuck : ∀ choice first b,
      ¬Turn program.code.toList text (thread.place, here) choice first b)
    (h : Yields program text here (settledSpots here (marks.set thread.place true hplace)) rest next
      result) :
    Yields program text here (settledSpots here marks) (thread :: rest) next result := by
  rw [settledSpots_set] at h
  have hdead : Dead program text (settledSpots here marks) (thread.place, here) :=
    dead_of_stuck haccept hstuck
  exact cons_of_dead hdead (of_insert hdead h)

/-- **Settling threads changes nothing in what comes of them:** first those that wait already, then
the threads that are to be settled, which avoid what was settled before. -/
theorem Yields.settle {marks : Array Bool} (settled : List Thread) {threads : List Thread}
    (hsize : marks.size = program.code.size)
    (h : let final := program.settle here (charBefore text here) text[here]? marks settled threads
      Yields program text (here + 1) ∅ (final.waiting.filterMap (program.readAt? text here))
        (Falls final.found next) result) :
    Yields program text (here + 1) ∅ (settled.reverse.filterMap (program.readAt? text here))
      (Yields program text here (settledSpots here marks) threads next) result := by
  fun_induction Program.settle program here (charBefore text here) text[here]? marks settled threads
  case case1 => exact h
  case case2 thread rest hplace hmark _ _ c hcode ih =>
    refine .of_waiting hmark hcode (fun choice saves b => ?_) (fun h => by cases h)
      (ih ((Array.size_set _).trans hsize) h)
    rw [turn_iff_step (by simp [hcode]), step_char (by simpa using hcode)]
    simp [Instr.reads]
  case case3 thread rest hplace hmark _ _ s hcode ih =>
    refine .of_waiting hmark hcode (fun choice saves b => ?_) (fun h => by cases h)
      (ih ((Array.size_set _).trans hsize) h)
    rw [turn_iff_step (by simp [hcode]), step_set (by simpa using hcode)]
    simp [Instr.reads]
  case case4 thread rest hplace hmark _ _ place look hcode hlook ih =>
    have leads : Leads program text (thread.place, here) [] (place, here) := by
      refine ⟨by simp [hcode], fun {choice saves c} => ?_⟩
      rw [turn_iff_step (by simp [hcode]), step_look (by simpa using hcode)]
      simp [Look.holdsAt, hlook, place]
    exact (ih ((Array.size_set _).trans hsize) h).imp (.of_leads hmark leads)
  case case5 thread rest hplace _ _ _ look hcode hlook ih =>
    refine (ih ((Array.size_set _).trans hsize) h).imp fun hrest =>
      .of_stuck (by simp [hcode]) (fun choice first b hturn => ?_) hrest
    exact hlook ((step_look (by simpa using hcode)).1 hturn.step).2.2
  case case6 thread rest hplace hmark _ _ place slot hcode slots ih =>
    have leads : Leads program text (thread.place, here) [(slot, here)] (place, here) := by
      refine ⟨by simp [hcode], fun {choice saves c} => ?_⟩
      rw [turn_iff_step (by simp [hcode]), step_save (by simpa using hcode)]
    exact (ih ((Array.size_set _).trans hsize) h).imp (.of_leads hmark leads)
  case case7 thread rest hplace hmark _ _ first second hcode ih =>
    refine (ih ((Array.size_set _).trans hsize) h).imp fun hrest => .cons_of_tries ?_
    rw [settledSpots_set] at hrest
    exact tries_fork hcode (not_mem_settledSpots hmark) hrest
  case case8 thread rest hplace hmark _ _ target hcode ih =>
    have leads : Leads program text (thread.place, here) [] (target, here) := by
      refine ⟨by simp [hcode], fun {choice saves c} => ?_⟩
      rw [turn_iff_step (by simp [hcode]), step_jump (by simpa using hcode)]
    exact (ih ((Array.size_set _).trans hsize) h).imp (.of_leads hmark leads)
  case case9 thread rest hplace hmark _ hcode =>
    refine h.imp fun hfound => ?_
    cases hfound
    exact tries_accept hcode (not_mem_settledSpots hmark)
  case case10 thread rest hplace _ _ _ hcode ih =>
    refine (ih ((Array.size_set _).trans hsize) h).imp fun hrest =>
      .of_stuck (by simp [hcode]) (fun choice first b => not_turn_none (by simpa using hcode)) hrest
  case case11 marks _ thread rest hplace hmarked ih =>
    refine (ih hsize h).imp fun hrest => .cons_of_dead (dead_of_mem ⟨rfl, ?_⟩) hrest
    rw [Array.getElem?_eq_getElem hplace]
    simpa using hmarked
  case case12 thread rest hplace ih =>
    have hnone : program.code[thread.place]? = none :=
      Array.getElem?_eq_none (by omega)
    refine (ih hsize h).imp fun hrest => .cons_of_dead (dead_of_stuck (by simp [hnone]) ?_) hrest
    exact fun choice first b => not_turn_none (by simpa using hnone)

/-! ### The search -/

/-- **What comes of the first place of the text, from a place on, where a match starts:** nothing,
if there is none. -/
def Leftmost (program : Program) (text : List Char) (here : Nat) (result : Option Slots) : Prop :=
  (∃ i saves, here ≤ i ∧ i ≤ text.length ∧
      (∀ k, here ≤ k → k < i → Dead program text ∅ (0, k)) ∧
      Preferred (Ends program text ∅ (0, i)) saves ∧
      result = some (remember program.blank saves)) ∨
    (∀ k, here ≤ k → k ≤ text.length → Dead program text ∅ (0, k)) ∧ result = none

theorem Leftmost.of_tries (hhere : here ≤ text.length)
    (h : Tries program text ∅ (0, here) program.blank (Leftmost program text (here + 1) result)
      result) : Leftmost program text here result := by
  have later : ∀ {k}, here ≤ k → Dead program text ∅ (0, here) →
      (here + 1 ≤ k → Dead program text ∅ (0, k)) → Dead program text ∅ (0, k) := by
    intro k hk hdead hlater
    rcases Nat.eq_or_lt_of_le hk with rfl | hk
    · exact hdead
    · exact hlater hk
  rcases h with ⟨saves, hsaves, rfl⟩ | ⟨hdead, h⟩
  · exact .inl ⟨here, saves, Nat.le_refl _, hhere, fun k hk hlt => absurd hlt (Nat.not_lt.2 hk),
      hsaves, rfl⟩
  rcases h with ⟨i, saves, hle, hi, hbefore, hsaves, rfl⟩ | ⟨hnone, rfl⟩
  · exact .inl ⟨i, saves, by omega, hi, fun k hk hlt => later hk hdead fun hk => hbefore k hk hlt,
      hsaves, rfl⟩
  · exact .inr ⟨fun k hk hle => later hk hdead fun hk => hnone k hk hle, rfl⟩

/-- What comes after the threads at hand: the match so far, or else a match that starts later. -/
def After (program : Program) (text : List Char) (here : Nat) (best : Option Slots) :
    Option Slots → Prop :=
  Falls best (Leftmost program text here)

/-- The threads at a place of the text, and one that starts there if there is no match so far. -/
theorem Yields.of_threadsAt {best : Option Slots} (hhere : here ≤ text.length)
    (h : Yields program text here ∅ (threadsAt program threads best)
      (After program text (here + 1) best) result) :
    Yields program text here ∅ threads (After program text here best) result := by
  cases best with
  | some slots => exact h
  | none => exact (append_iff.1 h).imp (.of_tries hhere)

/-- **Settling the threads at a place of the text** changes nothing in what comes of them. -/
theorem Yields.of_settledAt {best : Option Slots} (hhere : here ≤ text.length)
    (h : Yields program text (here + 1) ∅
      ((settledAt program text here threads best).waiting.filterMap (program.readAt? text here))
      (Falls (settledAt program text here threads best).found
        (After program text (here + 1) best)) result) :
    Yields program text here ∅ threads (After program text here best) result := by
  refine of_threadsAt hhere ?_
  rw [← settledSpots_replicate program.code.size]
  exact settle [] (Array.size_replicate ..) h

/-- **The search finds what comes of the threads at hand,** of a match so far if nothing comes of
them, and of a match that starts later if there is none so far. -/
theorem Yields.searchFrom (threads : List Thread) (best : Option Slots) {remaining : List Char}
    (hhere : here ≤ text.length) (hremaining : text.drop here = remaining) :
    Yields program text here ∅ threads (After program text here best)
      (program.searchFrom here (charBefore text here) threads best remaining) := by
  induction remaining generalizing here threads best with
  | nil =>
      have hend : text.length ≤ here := List.drop_eq_nil_iff.1 hremaining
      have hread : (settledAt program text here threads best).waiting.filterMap
          (program.readAt? text here) = [] := by
        simp [Program.readAt?, List.getElem?_eq_none hend]
      refine of_settledAt hhere ?_
      rw [searchFrom_nil hremaining, hread]
      change Falls _ _ _
      cases (settledAt program text here threads best).found with
      | some slots => rfl
      | none =>
          cases best with
          | some slots => rfl
          | none => exact .inr ⟨fun k hk hle => by omega, rfl⟩
  | cons c remaining ih =>
      have hc : text[here]? = some c := by rw [← List.head?_drop, hremaining, List.head?_cons]
      have hremaining' : text.drop (here + 1) = remaining := by
        rw [← List.tail_drop, hremaining, List.tail_cons]
      have hread : program.readAt? text here = program.read? c := by
        funext thread
        simp [Program.readAt?, hc]
      refine of_settledAt hhere ?_
      rw [searchFrom_cons hremaining, hread]
      -- A match that was found ends what comes of the threads that read on.
      have best' : Falls (settledAt program text here threads best).found
          (After program text (here + 1) best) =
          After program text (here + 1)
            ((settledAt program text here threads best).found.or best) := by
        cases (settledAt program text here threads best).found <;> rfl
      rw [best']
      split
      next hlast =>
        obtain ⟨hempty, hsome⟩ := Bool.and_eq_true_iff.1 hlast
        rw [List.isEmpty_iff.1 hempty]
        obtain ⟨slots, hslots⟩ := Option.isSome_iff_exists.1 hsome
        rw [hslots]
        rfl
      next => exact ih _ _ (List.getElem?_eq_some_iff.1 hc).1 hremaining'

/-- **What the search finds** is the preferred match at the first place where one starts. -/
theorem Program.leftmost_search : Leftmost program text 0 (program.search text) :=
  Yields.searchFrom [] none (Nat.zero_le _) rfl

theorem Leftmost.unique {result' : Option Slots} (h : Leftmost program text here result)
    (h' : Leftmost program text here result') : result = result' := by
  have contradiction : ∀ {i saves}, Preferred (Ends program text ∅ (0, i)) saves →
      ¬Dead program text ∅ (0, i) := fun ⟨choices, hway, _⟩ hdead => hdead choices _ hway
  rcases h with ⟨i, saves, hle, hi, hbefore, hsaves, rfl⟩ | ⟨hnone, rfl⟩
  · rcases h' with ⟨i', saves', hle', hi', hbefore', hsaves', rfl⟩ | ⟨hnone, -⟩
    · rcases Nat.lt_trichotomy i i' with hlt | rfl | hlt
      · exact absurd (hbefore' i hle hlt) (contradiction hsaves)
      · rw [hsaves.unique hsaves']
      · exact absurd (hbefore i' hle' hlt) (contradiction hsaves')
    · exact absurd (hnone i hle hi) (contradiction hsaves)
  · rcases h' with ⟨i', saves', hle', hi', -, hsaves', rfl⟩ | ⟨-, rfl⟩
    · exact absurd (hnone i' hle' hi') (contradiction hsaves')
    · rfl

/-- **The search finds the preferred one of the matches that start first.** -/
theorem Program.search_eq_some_iff : program.search text = some slots ↔
    ∃ i saves, i ≤ text.length ∧
      (∀ k < i, ∀ choices saves j, ¬program.Way text k choices saves j) ∧
      Preferred (fun choices saves => ∃ j, program.Way text i choices saves j) saves ∧
      slots = remember program.blank saves := by
  have dead : ∀ k, Dead program text ∅ (0, k) ↔
      ∀ choices saves j, ¬program.Way text k choices saves j := by
    intro k
    simp only [Dead, ends_empty_iff, not_exists]
  constructor
  · intro h
    have leftmost : Leftmost program text 0 (program.search text) := program.leftmost_search
    rw [h] at leftmost
    rcases leftmost with ⟨i, saves, -, hi, hbefore, hsaves, heq⟩ | ⟨-, heq⟩
    · exact ⟨i, saves, hi, fun k hk => (dead k).1 (hbefore k (Nat.zero_le k) hk),
        (Preferred.congr fun _ _ => ends_empty_iff).1 hsaves, Option.some.inj heq⟩
    · cases heq
  · rintro ⟨i, saves, hi, hbefore, hsaves, rfl⟩
    refine program.leftmost_search.unique (.inl ⟨i, saves, Nat.zero_le i, hi,
      fun k _ hk => (dead k).2 (hbefore k hk), ?_, rfl⟩)
    exact (Preferred.congr fun _ _ => ends_empty_iff).2 hsaves

end

end ParamTemplate.Regex
