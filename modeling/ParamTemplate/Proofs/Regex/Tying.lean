/-
**Expressions tied to both ends of a text.**

An expression with an assertion in front of it and one behind it runs over all of a text or not at
all.  It is known to start where the text starts and to end where it ends.

Main definitions:

* `Regex.Expr.tied` — an expression, tied to both ends.

Main results:

* `Regex.Expr.run_tied` — **a tied expression runs over all of a text or not at all**;
* `Regex.Expr.tied_eq` — how a tied expression is built;
* `Regex.Expr.startsAtStart_tied`, `Regex.Expr.endsAtEnd_tied` — both its ends are known.
-/

import ParamTemplate.Proofs.Regex.Building

set_option autoImplicit false

namespace ParamTemplate.Regex.Expr

/-- **An expression, tied to both ends of a text.** -/
def tied (e : Expr) : Expr := concat [look .textStart, e, look .textEnd]

/-- **A tied expression runs over all of a text or not at all.** -/
theorem run_tied {text : List Char} {e : Expr} {i j : Nat} {saves : List Save}
    (hi : i ≤ text.length) :
    e.tied.Run text i saves j ↔ i = 0 ∧ j = text.length ∧ e.Run text 0 saves text.length := by
  rw [tied, run_concat]
  simp only [RunAll, Run]
  constructor
  · rintro ⟨_, _, _, ⟨rfl, rfl, hstart⟩, ⟨first, k, _, hrun, hlast, rfl⟩, rfl⟩
    obtain ⟨_, _, _, ⟨rfl, rfl, hend⟩, ⟨rfl, rfl⟩, rfl⟩ := hlast
    rw [Look.holdsAt_textStart hi, decide_eq_true_iff] at hstart
    subst hstart
    rw [Look.holdsAt_textEnd (hrun.le_length hi), decide_eq_true_iff] at hend
    subst hend
    exact ⟨rfl, rfl, by simpa using hrun⟩
  · rintro ⟨rfl, rfl, hrun⟩
    refine ⟨[], 0, saves, ⟨rfl, rfl, ?_⟩, ⟨saves, text.length, [], hrun,
      ⟨[], text.length, [], ⟨rfl, rfl, ?_⟩, ⟨rfl, rfl⟩, rfl⟩, (List.append_nil saves).symm⟩, rfl⟩
    · rw [Look.holdsAt_textStart hi]
      rfl
    · rw [Look.holdsAt_textEnd (Nat.le_refl _)]
      exact decide_eq_true rfl

/-! ### The ends -/

/-- An assertion at the end stays there. -/
theorem foldr_consFactor_look (es : List Expr) (k : Look) :
    ∃ init, (es ++ [look k]).foldr consFactor [] = init ++ [look k] := by
  induction es with
  | nil => exact ⟨[], rfl⟩
  | cons e es ih =>
      obtain ⟨init, hinit⟩ := ih
      rw [List.cons_append, List.foldr_cons, hinit]
      unfold consFactor
      split
      next chars more rest heq =>
        cases init with
        | nil => cases heq
        | cons first init =>
            obtain ⟨rfl, rfl⟩ := List.cons.inj heq
            exact ⟨text (chars ++ more) :: init, rfl⟩
      next => exact ⟨_ :: init, rfl⟩

/-- How a tied expression is built. -/
theorem tied_eq (e : Expr) : ∃ rest,
    e.tied = cat (look .textStart) (chain (rest ++ [look .textEnd])) ∧
    (e.factors ++ [look .textEnd]).foldr consFactor [] = rest ++ [look .textEnd] := by
  obtain ⟨rest, hrest⟩ := foldr_consFactor_look e.factors .textEnd
  refine ⟨rest, ?_, hrest⟩
  have flat : [look .textStart, e, look .textEnd].flatMap factors =
      look .textStart :: (e.factors ++ [look .textEnd]) := by
    simp [factors]
  rw [tied, concat, flat, List.foldr_cons, hrest]
  cases rest <;> rfl

theorem startsAtStart_tied (e : Expr) : e.tied.startsAtStart := by
  obtain ⟨rest, htied, -⟩ := tied_eq e
  rw [htied]
  rfl

theorem endsAtEnd_chain (es : List Expr) : (chain (es ++ [look .textEnd])).endsAtEnd := by
  induction es with
  | nil => rfl
  | cons e es ih =>
      cases es with
      | nil => rfl
      | cons e' es =>
          change ((chain (e' :: es ++ [look .textEnd])).endsAtEnd || _) = true
          rw [ih, Bool.true_or]

theorem endsAtEnd_tied (e : Expr) : e.tied.endsAtEnd := by
  obtain ⟨rest, htied, -⟩ := tied_eq e
  rw [htied]
  change ((chain _).endsAtEnd || _) = true
  rw [endsAtEnd_chain, Bool.true_or]

end ParamTemplate.Regex.Expr
