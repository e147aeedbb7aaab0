/-
**What an expression matches.**

An expression is run along a text from one place to another.  On the way it remembers places under
numbers: two for every group that it enters, where the group starts and where it stops.  A run is a
relation, so that nothing is said about which of several runs is preferred; the search is compared
with it in `ParamTemplate.Proofs.Regex.Searching`.

An assertion is judged in the whole text.  Without assertions a run sees nothing but the characters
that it passes over, and can be moved to any other place where the same characters stand.

Main definitions:

* `Regex.Look.holdsAt` — whether an assertion holds at a place of a text;
* `Regex.Expr.Run` — the runs of an expression, with what is remembered on them;
* `Regex.Expr.Matches` — the parts of a text that an expression matches;
* `Regex.Expr.numbers` — the numbers of the groups of an expression.

Main results:

* `Regex.Expr.Run.le`, `Regex.Expr.Run.le_length` — a run goes forwards and stays in the text;
* `Regex.Expr.Run.mem_saves` — a run remembers places between its ends, for groups of the
  expression;
* `Regex.Expr.Matches.move` — **without assertions, a match is one wherever the same characters
  stand**.
-/

import Mathlib.Data.List.Basic
import ParamTemplate.Regex.Expr

set_option autoImplicit false

namespace ParamTemplate.Regex

/-! ### Places of a text -/

/-- The character before a place of a text. -/
def charBefore (text : List Char) : Nat → Option Char
  | 0 => none
  | i + 1 => text[i]?

/-- Whether an assertion holds at a place of a text. -/
def Look.holdsAt (look : Look) (text : List Char) (i : Nat) : Bool :=
  look.holds (charBefore text i) text[i]?

theorem Look.holdsAt_textStart {text : List Char} {i : Nat} (h : i ≤ text.length) :
    Look.textStart.holdsAt text i = decide (i = 0) := by
  cases i with
  | zero => rfl
  | succ i =>
      have hi : i < text.length := h
      simp [holdsAt, holds, charBefore, hi]

theorem Look.holdsAt_textEnd {text : List Char} {i : Nat} (h : i ≤ text.length) :
    Look.textEnd.holdsAt text i = decide (i = text.length) := by
  have : text[i]?.isNone = decide (i = text.length) := by
    rw [Bool.eq_iff_iff, Option.isNone_iff_eq_none, List.getElem?_eq_none_iff, decide_eq_true_iff]
    omega
  simpa [holdsAt, holds] using this

/-- A list stands at a place if its first member does, and the others at the next place. -/
theorem cons_isPrefix_drop {α : Type} {a : α} {part list : List α} {i : Nat} :
    a :: part <+: list.drop i ↔ list[i]? = some a ∧ part <+: list.drop (i + 1) := by
  rw [← List.head?_drop, ← List.tail_drop]
  cases list.drop i with
  | nil => simp
  | cons b rest => simp [List.cons_prefix_cons, eq_comm]

/-- A list of two parts stands at a place if the second part stands behind the first. -/
theorem append_isPrefix_drop {α : Type} {part more list : List α} {i : Nat} :
    part ++ more <+: list.drop i ↔
      part <+: list.drop i ∧ more <+: list.drop (i + part.length) := by
  induction part generalizing i with
  | nil => simp
  | cons a part ih =>
      rw [List.cons_append, cons_isPrefix_drop, cons_isPrefix_drop, ih, and_assoc,
        List.length_cons, show i + (part.length + 1) = i + 1 + part.length by omega]

/-! ### Runs -/

/-- A place of a text, remembered under a number. -/
abbrev Save := Nat × Nat

/-- As many steps one after the other as a number says, with what is remembered on the way. -/
inductive Rounds {α : Type} (step : α → List Save → α → Prop) :
    Nat → α → List Save → α → Prop where
  | zero (a : α) : Rounds step 0 a [] a
  | succ {n : Nat} {a b c : α} {first rest : List Save} :
      step a first b → Rounds step n b rest c → Rounds step (n + 1) a (first ++ rest) c

/-- **The runs of an expression along a text,** from one place to another, with what is remembered
on the way.  An upper bound below the lower one is no bound. -/
@[simp]
def Expr.Run (text : List Char) : Expr → Nat → List Save → Nat → Prop
  | empty, i, saves, j => saves = [] ∧ j = i
  | .text chars, i, saves, j => saves = [] ∧ j = i + chars.length ∧ chars <+: text.drop i
  | set _ s, i, saves, j => saves = [] ∧ j = i + 1 ∧ ∃ c, text[i]? = some c ∧ s.contains c
  | look k, i, saves, j => saves = [] ∧ j = i ∧ k.holdsAt text i
  | group index body, i, saves, j =>
      ∃ inner, body.Run text i inner j ∧
        saves = (2 * index, i) :: (inner ++ [(2 * index + 1, j)])
  | repetition min max _ body, i, saves, j =>
      ∃ n, min ≤ n ∧ (∀ m, max = some m → n ≤ min ∨ n ≤ m) ∧
        Rounds (fun i saves j => body.Run text i saves j) n i saves j
  | cat left right, i, saves, j =>
      ∃ first k rest, left.Run text i first k ∧ right.Run text k rest j ∧ saves = first ++ rest
  | alt left right, i, saves, j => left.Run text i saves j ∨ right.Run text i saves j

/-- **Whether an expression matches a part of a text.** -/
def Expr.Matches (text : List Char) (e : Expr) (i j : Nat) : Prop := ∃ saves, e.Run text i saves j

namespace Expr

variable {text : List Char} {e left right : Expr} {i j : Nat}

theorem matches_group {index : Nat} : (group index e).Matches text i j ↔ e.Matches text i j := by
  constructor
  · rintro ⟨_, inner, hrun, _⟩
    exact ⟨inner, hrun⟩
  · rintro ⟨inner, hrun⟩
    exact ⟨_, inner, hrun, rfl⟩

theorem matches_repetition {min : Nat} {max : Option Nat} {greedy : Bool} :
    (repetition min max greedy e).Matches text i j ↔
      ∃ n, min ≤ n ∧ (∀ m, max = some m → n ≤ min ∨ n ≤ m) ∧
        ∃ saves, Rounds (fun i saves j => e.Run text i saves j) n i saves j := by
  constructor
  · rintro ⟨saves, n, hmin, hmax, hrounds⟩
    exact ⟨n, hmin, hmax, saves, hrounds⟩
  · rintro ⟨n, hmin, hmax, saves, hrounds⟩
    exact ⟨saves, n, hmin, hmax, hrounds⟩

theorem matches_cat :
    (cat left right).Matches text i j ↔ ∃ k, left.Matches text i k ∧ right.Matches text k j := by
  constructor
  · rintro ⟨_, first, k, rest, hleft, hright, _⟩
    exact ⟨k, ⟨first, hleft⟩, rest, hright⟩
  · rintro ⟨k, ⟨first, hleft⟩, rest, hright⟩
    exact ⟨first ++ rest, first, k, rest, hleft, hright, rfl⟩

theorem matches_alt :
    (alt left right).Matches text i j ↔ left.Matches text i j ∨ right.Matches text i j :=
  exists_or

end Expr

/-- Rounds end where those of another relation do that relates the same places. -/
theorem exists_rounds_congr {run run' : Nat → List Save → Nat → Prop} {n i j : Nat}
    (same : ∀ i j, (∃ saves, run i saves j) → ∃ saves, run' i saves j)
    (h : ∃ saves, Rounds run n i saves j) : ∃ saves, Rounds run' n i saves j := by
  obtain ⟨saves, h⟩ := h
  induction h with
  | zero i => exact ⟨[], .zero i⟩
  | succ first _ ih =>
      obtain ⟨before, hfirst⟩ := same _ _ ⟨_, first⟩
      obtain ⟨after, hrest⟩ := ih
      exact ⟨before ++ after, .succ hfirst hrest⟩

/-- The numbers of the groups of an expression. -/
def Expr.numbers : Expr → List Nat
  | empty | text _ | set .. | look _ => []
  | group index body => index :: body.numbers
  | repetition _ _ _ body => body.numbers
  | cat left right | alt left right => left.numbers ++ right.numbers

namespace Rounds

section

variable {α : Type} {step : α → List Save → α → Prop} {m n : Nat} {a b c : α}
  {saves rest : List Save}

theorem one (h : step a saves b) : Rounds step 1 a saves b :=
  List.append_nil saves ▸ .succ h (.zero b)

theorem append (h : Rounds step n a saves b) (h' : Rounds step m b rest c) :
    Rounds step (n + m) a (saves ++ rest) c := by
  induction h with
  | zero a => simpa using h'
  | succ first _ ih =>
      rw [List.append_assoc, Nat.succ_add]
      exact .succ first (ih h')

end

variable {run : Nat → List Save → Nat → Prop} {n i j : Nat} {saves : List Save}

theorem le (h : Rounds run n i saves j) (step : ∀ i saves j, run i saves j → i ≤ j) : i ≤ j := by
  induction h with
  | zero i => exact Nat.le_refl i
  | succ first _ ih => exact Nat.le_trans (step _ _ _ first) ih

theorem le_of_le {bound : Nat} (h : Rounds run n i saves j)
    (step : ∀ i saves j, run i saves j → i ≤ bound → j ≤ bound) (hi : i ≤ bound) : j ≤ bound := by
  induction h with
  | zero i => exact hi
  | succ first _ ih => exact ih (step _ _ _ first hi)

theorem mem_saves {numbers : List Nat} (h : Rounds run n i saves j)
    (le : ∀ i saves j, run i saves j → i ≤ j)
    (step : ∀ i saves j, run i saves j → ∀ save ∈ saves,
      save.1 / 2 ∈ numbers ∧ i ≤ save.2 ∧ save.2 ≤ j) :
    ∀ save ∈ saves, save.1 / 2 ∈ numbers ∧ i ≤ save.2 ∧ save.2 ≤ j := by
  induction h with
  | zero i => simp
  | succ first later ih =>
      have hle := le _ _ _ first
      have hle' := later.le le
      rintro save hsave
      rcases List.mem_append.1 hsave with hfirst | hlater
      · obtain ⟨hnumber, hstart, hstop⟩ := step _ _ _ first save hfirst
        exact ⟨hnumber, hstart, Nat.le_trans hstop hle'⟩
      · obtain ⟨hnumber, hstart, hstop⟩ := ih save hlater
        exact ⟨hnumber, Nat.le_trans hle hstart, hstop⟩

end Rounds

namespace Expr

variable {text : List Char} {e : Expr} {i j : Nat} {saves : List Save}

namespace Run

/-- **A run goes forwards.** -/
theorem le (h : e.Run text i saves j) : i ≤ j := by
  induction e generalizing i saves j with
  | empty => exact Nat.le_of_eq h.2.symm
  | text chars => have := h.2.1; omega
  | set ascii s => have := h.2.1; omega
  | look k => exact Nat.le_of_eq h.2.1.symm
  | group index body ih =>
      obtain ⟨_, hbody, _⟩ := h
      exact ih hbody
  | repetition min max greedy body ih =>
      obtain ⟨_, _, _, hrounds⟩ := h
      exact hrounds.le fun _ _ _ => ih
  | cat left right ihl ihr =>
      obtain ⟨_, _, _, hleft, hright, _⟩ := h
      exact Nat.le_trans (ihl hleft) (ihr hright)
  | alt left right ihl ihr =>
      rcases h with hleft | hright
      · exact ihl hleft
      · exact ihr hright

/-- **A run stays in the text.** -/
theorem le_length (h : e.Run text i saves j) (hi : i ≤ text.length) : j ≤ text.length := by
  induction e generalizing i saves j with
  | empty => exact h.2 ▸ hi
  | text chars =>
      have := h.2.2.length_le
      rw [List.length_drop] at this
      rw [h.2.1]
      omega
  | set ascii s =>
      obtain ⟨_, rfl, c, hc, _⟩ := h
      exact (List.getElem?_eq_some_iff.1 hc).1
  | look k => exact h.2.1 ▸ hi
  | group index body ih =>
      obtain ⟨_, hbody, _⟩ := h
      exact ih hbody hi
  | repetition min max greedy body ih =>
      obtain ⟨_, _, _, hrounds⟩ := h
      exact hrounds.le_of_le (fun _ _ _ => ih) hi
  | cat left right ihl ihr =>
      obtain ⟨_, _, _, hleft, hright, _⟩ := h
      exact ihr hright (ihl hleft hi)
  | alt left right ihl ihr =>
      rcases h with hleft | hright
      · exact ihl hleft hi
      · exact ihr hright hi

/-- **A run remembers places between its ends,** for groups of the expression. -/
theorem mem_saves (h : e.Run text i saves j) :
    ∀ save ∈ saves, save.1 / 2 ∈ e.numbers ∧ i ≤ save.2 ∧ save.2 ≤ j := by
  induction e generalizing i saves j with
  | empty | text chars | set ascii s | look k => simp [h.1]
  | group index body ih =>
      have hle := Run.le h
      obtain ⟨inner, hbody, rfl⟩ := h
      intro save hsave
      simp only [List.mem_cons, List.mem_append, List.not_mem_nil, or_false] at hsave
      rcases hsave with rfl | hinner | rfl
      · exact ⟨List.mem_cons.2 (.inl (by simp)), Nat.le_refl i, hle⟩
      · obtain ⟨hnumber, hbounds⟩ := ih hbody save hinner
        exact ⟨List.mem_cons.2 (.inr hnumber), hbounds⟩
      · exact ⟨List.mem_cons.2 (.inl (by simp only; omega)), hle, Nat.le_refl j⟩
  | repetition min max greedy body ih =>
      obtain ⟨_, _, _, hrounds⟩ := h
      exact hrounds.mem_saves (fun _ _ _ => Run.le) fun _ _ _ => ih
  | cat left right ihl ihr =>
      obtain ⟨first, k, rest, hleft, hright, rfl⟩ := h
      have hle := Run.le hleft
      have hle' := Run.le hright
      intro save hsave
      rcases List.mem_append.1 hsave with hfirst | hrest
      · obtain ⟨hnumber, hstart, hstop⟩ := ihl hleft save hfirst
        exact ⟨List.mem_append_left _ hnumber, hstart, Nat.le_trans hstop hle'⟩
      · obtain ⟨hnumber, hstart, hstop⟩ := ihr hright save hrest
        exact ⟨List.mem_append_right _ hnumber, Nat.le_trans hle hstart, hstop⟩
  | alt left right ihl ihr =>
      intro save hsave
      rcases h with hleft | hright
      · obtain ⟨hnumber, hbounds⟩ := ihl hleft save hsave
        exact ⟨List.mem_append_left _ hnumber, hbounds⟩
      · obtain ⟨hnumber, hbounds⟩ := ihr hright save hsave
        exact ⟨List.mem_append_right _ hnumber, hbounds⟩

end Run

/-! ### Moving a match -/

/-- The same characters stand behind place `a` of a text and behind place `b` of another, from `i`
to `j` places on. -/
def Alike (text other : List Char) (a b i j : Nat) : Prop :=
  ∀ k, i ≤ k → k < j → text[a + k]? = other[b + k]?

theorem Alike.shrink {text other : List Char} {a b i j i' j' : Nat} (h : Alike text other a b i j)
    (hi : i ≤ i') (hj : j' ≤ j) : Alike text other a b i' j' :=
  fun k hk hk' => h k (Nat.le_trans hi hk) (Nat.lt_of_lt_of_le hk' hj)

/-- A text that stands at a place of one text stands where the same characters stand. -/
theorem Alike.isPrefix_drop {text other chars : List Char} {a b i j : Nat}
    (same : Alike text other a b i j) (hj : i + chars.length ≤ j)
    (h : chars <+: text.drop (a + i)) : chars <+: other.drop (b + i) := by
  induction chars generalizing i with
  | nil => exact List.nil_prefix
  | cons c chars ih =>
      rw [List.length_cons] at hj
      rw [cons_isPrefix_drop] at h ⊢
      refine ⟨?_, ih (same.shrink (Nat.le_succ i) (Nat.le_refl j)) (by omega) h.2⟩
      rw [← same i (Nat.le_refl i) (by omega), h.1]

/-- Rounds move with their body. -/
theorem Rounds.move {text other : List Char} {a b n i j : Nat} {body : Expr} {saves : List Save}
    (h : Rounds (fun i saves j => body.Run text i saves j) n (a + i) saves (a + j))
    (same : Alike text other a b i j)
    (step : ∀ {i j saves}, body.Run text (a + i) saves (a + j) → Alike text other a b i j →
      ∃ moved, body.Run other (b + i) moved (b + j)) :
    ∃ moved, Rounds (fun i saves j => body.Run other i saves j) n (b + i) moved (b + j) := by
  generalize hstart : a + i = start at h
  generalize hstop : a + j = stop at h
  induction h generalizing i with
  | zero =>
      obtain rfl : i = j := by omega
      exact ⟨[], .zero _⟩
  | @succ n start mid stop first rest hfirst hrest ih =>
      have hle := Run.le hfirst
      have hle' := hrest.le fun _ _ _ => Run.le
      -- The place between the first round and the others lies behind `a` as well.
      obtain ⟨k, rfl⟩ : ∃ k, mid = a + k := ⟨mid - a, by omega⟩
      subst hstart hstop
      obtain ⟨moved, hmoved⟩ := step hfirst (same.shrink (Nat.le_refl i) (by omega))
      obtain ⟨more, hmore⟩ := ih (same.shrink (by omega) (Nat.le_refl j)) rfl rfl
      exact ⟨moved ++ more, .succ hmoved hmore⟩

theorem Run.move {text other : List Char} {e : Expr} {a b i j : Nat} {saves : List Save}
    (free : e.isLookFree) (h : e.Run text (a + i) saves (a + j)) (same : Alike text other a b i j) :
    ∃ moved, e.Run other (b + i) moved (b + j) := by
  induction e generalizing i saves j with
  | empty =>
      obtain ⟨_, hj⟩ := h
      exact ⟨[], rfl, by omega⟩
  | text chars =>
      obtain ⟨_, hj, hchars⟩ := h
      exact ⟨[], rfl, by omega, same.isPrefix_drop (by omega) hchars⟩
  | set ascii s =>
      obtain ⟨_, hj, c, hc, hs⟩ := h
      exact ⟨[], rfl, by omega, c, same i (Nat.le_refl i) (by omega) ▸ hc, hs⟩
  | look k => cases free
  | group index body ih =>
      obtain ⟨inner, hbody, _⟩ := h
      obtain ⟨moved, hmoved⟩ := ih free hbody same
      exact ⟨_, moved, hmoved, rfl⟩
  | repetition min max greedy body ih =>
      obtain ⟨n, hmin, hmax, hrounds⟩ := h
      obtain ⟨moved, hmoved⟩ := Rounds.move hrounds same (ih free)
      exact ⟨moved, n, hmin, hmax, hmoved⟩
  | cat left right ihl ihr =>
      obtain ⟨freeLeft, freeRight⟩ := Bool.and_eq_true_iff.1 free
      obtain ⟨first, mid, rest, hleft, hright, _⟩ := h
      have hle := Run.le hleft
      have hle' := Run.le hright
      obtain ⟨k, rfl⟩ : ∃ k, mid = a + k := ⟨mid - a, by omega⟩
      obtain ⟨moved, hmoved⟩ := ihl freeLeft hleft (same.shrink (Nat.le_refl i) (by omega))
      obtain ⟨more, hmore⟩ := ihr freeRight hright (same.shrink (by omega) (Nat.le_refl j))
      exact ⟨moved ++ more, moved, b + k, more, hmoved, hmore, rfl⟩
  | alt left right ihl ihr =>
      obtain ⟨freeLeft, freeRight⟩ := Bool.and_eq_true_iff.1 free
      rcases h with hleft | hright
      · obtain ⟨moved, hmoved⟩ := ihl freeLeft hleft same
        exact ⟨moved, .inl hmoved⟩
      · obtain ⟨moved, hmoved⟩ := ihr freeRight hright same
        exact ⟨moved, .inr hmoved⟩

/-- **Without assertions, a match is one wherever the same characters stand.** -/
theorem Matches.move {text other : List Char} {e : Expr} {a b i j : Nat} (free : e.isLookFree)
    (h : e.Matches text (a + i) (a + j)) (same : Alike text other a b i j) :
    e.Matches other (b + i) (b + j) := by
  obtain ⟨saves, hrun⟩ := h
  exact hrun.move free same

end Expr

end ParamTemplate.Regex
