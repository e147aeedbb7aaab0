/-
**What the groups of a match are.**

A run remembers the two ends of a group when it passes through it; later passes overwrite earlier
ones.  What is left of a group after the match is what its last pass remembered, and no other group
has the same number.

Main definition:

* `Regex.Recorded` — a part of the text is what a run remembers last of a group.

Main results:

* `Regex.Expr.RunAll.mem_saves` — what several runs remember belongs to their groups;
* `Regex.exists_run_of_captures?` — **a match comes from a run, and its groups are what the run
  remembers last of them.**
-/

import ParamTemplate.Proofs.Regex.Building
import ParamTemplate.Proofs.Regex.Searching
import ParamTemplate.Regex

set_option autoImplicit false

namespace ParamTemplate.Regex

/-! ### What is remembered last -/

@[simp] theorem size_remember (slots : Slots) (saves : List Save) :
    (remember slots saves).size = slots.size := by
  induction saves generalizing slots with
  | nil => rfl
  | cons save saves ih => exact (ih _).trans (Array.size_setIfInBounds ..)

/-- A number that is not used keeps its place. -/
theorem getElem?_remember_of_forall_ne {slots : Slots} {saves : List Save} {n : Nat}
    (h : ∀ save ∈ saves, save.1 ≠ n) : (remember slots saves)[n]? = slots[n]? := by
  induction saves generalizing slots with
  | nil => rfl
  | cons save saves ih =>
      obtain ⟨hsave, hsaves⟩ := List.forall_mem_cons.1 h
      exact (ih hsaves).trans (Array.getElem?_setIfInBounds_ne hsave)

/-- **What is remembered last** is what is left. -/
theorem getElem?_remember_append {slots : Slots} {saves after : List Save} {n i : Nat}
    (hn : n < slots.size) (h : ∀ save ∈ after, save.1 ≠ n) :
    (remember slots (saves ++ (n, i) :: after))[n]? = some (some i) := by
  rw [remember_append]
  refine (getElem?_remember_of_forall_ne h).trans ?_
  exact Array.getElem?_setIfInBounds_self_of_lt (by rwa [size_remember])

/-- **Whether a part of the text is what a run remembers last of a group:** behind the two ends of
the group nothing is remembered of it, and nothing between them. -/
def Recorded (saves : List Save) (number i j : Nat) : Prop :=
  ∃ before inner after,
    saves = before ++ (2 * number, i) :: (inner ++ (2 * number + 1, j) :: after) ∧
    (∀ save ∈ inner, save.1 / 2 ≠ number) ∧ ∀ save ∈ after, save.1 / 2 ≠ number

namespace Recorded

variable {saves : List Save} {number i j : Nat}

theorem append_left (h : Recorded saves number i j) (first : List Save) :
    Recorded (first ++ saves) number i j := by
  obtain ⟨before, inner, after, rfl, hinner, hafter⟩ := h
  exact ⟨first ++ before, inner, after, (List.append_assoc ..).symm, hinner, hafter⟩

theorem append_right (h : Recorded saves number i j) {rest : List Save}
    (hrest : ∀ save ∈ rest, save.1 / 2 ≠ number) : Recorded (saves ++ rest) number i j := by
  obtain ⟨before, inner, after, rfl, hinner, hafter⟩ := h
  refine ⟨before, inner, after ++ rest, by simp, hinner, fun save hsave => ?_⟩
  exact (List.mem_append.1 hsave).elim (hafter save) (hrest save)

theorem mem (h : Recorded saves number i j) : (2 * number, i) ∈ saves := by
  obtain ⟨before, inner, after, rfl, -⟩ := h
  exact List.mem_append_right _ (List.mem_cons_self ..)

/-- **What is left of a group** is what was remembered last. -/
theorem getElem? (h : Recorded saves number i j) {slots : Slots}
    (hn : 2 * number + 1 < slots.size) :
    (remember slots saves)[2 * number]? = some (some i) ∧
      (remember slots saves)[2 * number + 1]? = some (some j) := by
  obtain ⟨before, inner, after, rfl, hinner, hafter⟩ := h
  constructor
  · refine getElem?_remember_append (by omega) fun save hsave heq => ?_
    rcases List.mem_append.1 hsave with hsave | hsave
    · exact hinner save hsave (by omega)
    · rcases List.mem_cons.1 hsave with rfl | hsave
      · simp at heq
      · exact hafter save hsave (by omega)
  · have split : before ++ (2 * number, i) :: (inner ++ (2 * number + 1, j) :: after) =
        (before ++ (2 * number, i) :: inner) ++ (2 * number + 1, j) :: after := by simp
    rw [split]
    exact getElem?_remember_append hn fun save hsave heq => hafter save hsave (by omega)

end Recorded

/-! ### Groups of expressions -/

namespace Expr

variable {text : List Char} {e : Expr} {es : List Expr} {i j : Nat} {saves : List Save}

theorem le_maxGroup {number : Nat} (h : number ∈ e.numbers) : number ≤ e.maxGroup := by
  induction e with
  | empty | text | set | look => cases h
  | group index body ih =>
      rcases List.mem_cons.1 h with rfl | h
      · exact Nat.le_max_left ..
      · exact Nat.le_trans (ih h) (Nat.le_max_right ..)
  | repetition min max greedy body ih => exact ih h
  | cat left right ihl ihr | alt left right ihl ihr =>
      rcases List.mem_append.1 h with h | h
      · exact Nat.le_trans (ihl h) (Nat.le_max_left ..)
      · exact Nat.le_trans (ihr h) (Nat.le_max_right ..)

/-- **What several runs remember** belongs to their groups. -/
theorem RunAll.mem_saves (h : RunAll text es i saves j) :
    ∀ save ∈ saves, save.1 / 2 ∈ es.flatMap numbers := by
  induction es generalizing i saves with
  | nil =>
      rw [h.1]
      exact List.forall_mem_nil _
  | cons e es ih =>
      obtain ⟨first, k, rest, hrun, hrest, rfl⟩ := h
      intro save hsave
      rw [List.flatMap_cons]
      rcases List.mem_append.1 hsave with hsave | hsave
      · exact List.mem_append_left _ (hrun.mem_saves save hsave).1
      · exact List.mem_append_right _ (ih hrest save hsave)

end Expr

/-- **A match comes from a run, and its groups are what the run remembers last of them.** -/
theorem exists_run_of_captures? {regex : Regex} {text : List Char} {captures : Captures}
    (hprogram : regex.program = regex.expr.program)
    (h : regex.captures? text = some captures) :
    ∃ i saves j, i ≤ text.length ∧ regex.expr.Run text i saves j ∧
      ∀ {number a b}, 0 < number → Recorded saves number a b →
        captures.group? number = some ((text.take b).drop a) := by
  obtain ⟨slots, hslots, rfl⟩ := Option.map_eq_some_iff.1 h
  rw [hprogram] at hslots
  obtain ⟨i, saves, j, hi, ⟨inner, hrun, rfl⟩, rfl⟩ := Expr.exists_run_of_search hslots
  refine ⟨i, inner, j, hi, hrun, fun {number a b} hpositive hrecorded => ?_⟩
  have hnumber : number ≤ regex.expr.maxGroup := by
    have := (hrun.mem_saves _ hrecorded.mem).1
    rw [Nat.mul_div_cancel_left _ (by decide)] at this
    exact Expr.le_maxGroup this
  have hsize : 2 * number + 1 < regex.expr.program.blank.size := by
    simp only [Program.blank, Expr.program, Array.size_replicate]
    omega
  have hwhole : Recorded ((2 * 0, i) :: (inner ++ [(2 * 0 + 1, j)])) number a b := by
    refine Recorded.append_left (hrecorded.append_right ?_) [(2 * 0, i)]
    intro save hsave
    rw [List.mem_singleton.1 hsave]
    exact Nat.ne_of_lt (by simpa using hpositive)
  obtain ⟨hstart, hstop⟩ := hwhole.getElem? hsize
  simp only [Captures.group?, hstart, hstop, Option.join_some]

end ParamTemplate.Regex
