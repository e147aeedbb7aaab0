/-
**The steps of which simplifications are made.**

The functions that build expressions open up what is nested, join neighbouring texts, make one set of
single characters, and take out of a choice what all of its branches begin with.  Each of these is a
step that changes one place of an expression, or several of them.  A relation that allows the steps
allows what they come to, so that it can be shown of each step alone.

The last of the steps is the one that not every relation allows: what is taken out of a choice may
have to be of a certain kind.

Main definitions:

* `Regex.Expr.flat` — an expression as the list of what it does one after the other;
* `Regex.Expr.takenOut` — what is taken out of a choice;
* `Regex.Expr.Allows` — a relation that allows the steps.

Main results:

* `Regex.Expr.Allows.concat` — **what allows the steps relates a concatenation to its parts**;
* `Regex.Expr.Allows.choice` — **and a choice to its branches.**
-/

import Mathlib.Data.List.Forall2
import ParamTemplate.Proofs.Regex.Building

set_option autoImplicit false

namespace ParamTemplate.Regex.Expr

variable {e e' : Expr} {es es' parts : List Expr}

/-! ### One after the other -/

/-- **What an expression does, one after the other,** down to single characters. -/
def flat : Expr → List Expr
  | empty => []
  | text chars => chars.map fun c => text [c]
  | cat left right => left.flat ++ right.flat
  | e => [e]

theorem flatMap_flat_factors (e : Expr) : e.factors.flatMap flat = e.flat := by
  induction e with
  | empty => rfl
  | cat left right _ ih => rw [factors, List.flatMap_cons, ih, flat]
  | text | set | look | group | repetition | alt => simp [factors]

theorem flat_chain (es : List Expr) : (chain es).flat = es.flatMap flat := by
  induction es with
  | nil => rfl
  | cons e es ih =>
      cases es with
      | nil => simp [chain]
      | cons e' es =>
          change e.flat ++ (chain (e' :: es)).flat = _
          rw [ih]
          rfl

theorem flatMap_flat_foldr (es : List Expr) :
    (es.foldr consFactor []).flatMap flat = es.flatMap flat := by
  induction es with
  | nil => rfl
  | cons e es ih =>
      rw [List.foldr_cons, List.flatMap_cons, ← ih]
      generalize es.foldr consFactor [] = rest
      unfold consFactor
      split
      · simp [flat]
      · rw [List.flatMap_cons]

/-- **A concatenation does what its parts do,** one after the other. -/
theorem flat_concat (parts : List Expr) : (concat parts).flat = parts.flatMap flat := by
  rw [concat, flat_chain, flatMap_flat_foldr, List.flatMap_assoc]
  simp only [flatMap_flat_factors]

/-! ### Several branches -/

theorem firstOf_cons (e : Expr) (h : es ≠ []) : firstOf (e :: es) = alt e (firstOf es) := by
  cases es with
  | nil => exact absurd rfl h
  | cons => rfl

theorem branches_ne_nil (e : Expr) : e.branches ≠ [] := by
  cases e <;> simp [branches]

theorem firstOf_branches (e : Expr) : firstOf e.branches = e := by
  induction e with
  | alt left right _ ih => rw [branches, firstOf_cons left (branches_ne_nil right), ih]
  | empty | text | set | look | group | repetition | cat => rfl

/-- **The branches of a choice may be replaced,** if both branches of a choice of two may be. -/
theorem firstOf_congr {R : Expr → Expr → Prop} (hnone : R (set true .empty) (set true .empty))
    (halt : ∀ {a a' b b' : Expr}, R a a' → R b b' → R (alt a b) (alt a' b'))
    (h : List.Forall₂ R es es') : R (firstOf es) (firstOf es') := by
  induction h with
  | nil => exact hnone
  | @cons e e' es es' he hes ih =>
      cases hes with
      | nil => exact he
      | cons he' hes => exact halt he ih

/-- **The parts of a sequence may be replaced,** if both parts of a sequence of two may be. -/
theorem chain_congr {R : Expr → Expr → Prop} (hnone : R empty empty)
    (hcat : ∀ {a a' b b' : Expr}, R a a' → R b b' → R (cat a b) (cat a' b'))
    (h : List.Forall₂ R es es') : R (chain es) (chain es') := by
  induction h with
  | nil => exact hnone
  | @cons e e' es es' he hes ih =>
      cases hes with
      | nil => exact he
      | cons he' hes => exact hcat he ih

/-! ### What is taken out -/

/-- What is taken out of a choice, with at most `fuel` nested steps. -/
def takenOutWithin : Nat → List Expr → List Expr
  | fuel, parts =>
      let parts := parts.flatMap branches
      if parts.length ≤ 1 then []
      else
        match mergedSet? parts with
        | some _ => []
        | none =>
            match fuel, commonFactors parts with
            | fuel + 1, common@(_ :: _) =>
                common ++ takenOutWithin fuel
                  (parts.map fun e => concat (e.factors.drop common.length))
            | _, _ => []

/-- **What is taken out of a choice:** what all branches begin with, what is left of them begins
with, and so on. -/
def takenOut (parts : List Expr) : List Expr :=
  takenOutWithin (parts.flatMap factors).length parts

/-! ### Steps -/

/-- **A relation that allows the steps of which simplifications are made.**  What is taken out of a
choice has to be `free`. -/
structure Allows (R : Expr → Expr → Prop) (free : Expr → Prop) : Prop where
  trans {a b c : Expr} : R a b → R b c → R a c
  /-- The second of two parts may be replaced. -/
  cat {a b b' : Expr} : R b b' → R (.cat a b) (.cat a b')
  /-- Both branches may be replaced. -/
  alt {a a' b b' : Expr} : R a a' → R b b' → R (.alt a b) (.alt a' b')
  /-- How parts are held together does not matter. -/
  flat {a b : Expr} : a.flat = b.flat → R a b
  /-- A choice in the first branch may be opened up. -/
  assoc (a b c : Expr) : R (.alt (.alt a b) c) (.alt a (.alt b c))
  /-- What both branches begin with may be taken out. -/
  distrib {a : Expr} : free a → ∀ b c, R (.alt (.cat a b) (.cat a c)) (.cat a (.alt b c))
  /-- Branches that are single characters or sets may be one set. -/
  merged {parts : List Expr} {s : CharSet} :
    parts ≠ [] → mergedSet? parts = some s → R (firstOf parts) (ofSet false s)
  /-- What follows one after the other is free if each of it is. -/
  chain {es : List Expr} : (∀ e ∈ es, free e) → free (chain es)

namespace Allows

variable {R : Expr → Expr → Prop} {free : Expr → Prop} (h : Allows R free)

include h

theorem refl (e : Expr) : R e e := h.flat rfl

/-- **A concatenation in the place of its parts.** -/
theorem concat (parts : List Expr) : R (Expr.chain parts) (Expr.concat parts) :=
  h.flat (by rw [flat_chain, flat_concat])

theorem branches_append (e : Expr) (hne : es ≠ []) :
    R (.alt e (firstOf es)) (firstOf (e.branches ++ es)) := by
  induction e with
  | alt left right _ ih =>
      have hrest : right.branches ++ es ≠ [] := by simp [hne]
      rw [branches, List.cons_append, firstOf_cons left hrest]
      exact h.trans (h.assoc left right _) (h.alt (h.refl left) ih)
  | empty | text | set | look | group | repetition | cat =>
      change R _ (firstOf (_ :: es))
      rw [firstOf_cons _ hne]
      exact h.refl _

/-- **Nested choices may be opened up.** -/
theorem flatMap_branches (parts : List Expr) :
    R (firstOf parts) (firstOf (parts.flatMap branches)) := by
  induction parts with
  | nil => exact h.refl _
  | cons e parts ih =>
      cases parts with
      | nil =>
          rw [List.flatMap_singleton, firstOf_branches]
          exact h.refl e
      | cons e' parts =>
          have hne : (e' :: parts).flatMap branches ≠ [] := by
            simp [branches_ne_nil e']
          rw [firstOf_cons e (List.cons_ne_nil e' parts), List.flatMap_cons]
          exact h.trans (h.alt (h.refl e) ih) (h.branches_append e hne)

/-- What all branches begin with may be taken out of several branches. -/
theorem cat_firstOf (hfree : free e) (hne : es ≠ []) :
    R (firstOf (es.map (.cat e))) (.cat e (firstOf es)) := by
  induction es with
  | nil => exact absurd rfl hne
  | cons a es ih =>
      cases es with
      | nil => exact h.refl _
      | cons b es =>
          rw [List.map_cons, firstOf_cons _ (by simp), firstOf_cons a (List.cons_ne_nil b es)]
          exact h.trans (h.alt (h.refl _) (ih (List.cons_ne_nil b es))) (h.distrib hfree a _)

/-- A branch with its beginning apart. -/
theorem split {common : List Expr} (hcommon : common <+: e.factors) :
    R e (.cat (Expr.chain common) (Expr.concat (e.factors.drop common.length))) := by
  refine h.flat ?_
  rw [Expr.flat, flat_chain, flat_concat, ← List.flatMap_append,
    List.prefix_iff_eq_append.1 hcommon, flatMap_flat_factors]

/-- What all branches begin with is taken out, and what is left of them is a choice again. -/
theorem common {common : List Expr} {rest : Expr} (hne : parts ≠ [])
    (hfree : ∀ e ∈ common, free e) (hcommon : ∀ e ∈ parts, common <+: e.factors)
    (hrest : R (firstOf (parts.map fun e => Expr.concat (e.factors.drop common.length))) rest) :
    R (firstOf parts) (Expr.concat (common ++ [rest])) := by
  generalize hrests :
    (parts.map fun e => Expr.concat (e.factors.drop common.length)) = rests at hrest
  have hne' : rests ≠ [] := by
    rintro rfl
    exact hne (List.map_eq_nil_iff.1 hrests)
  have apart : R (firstOf parts) (firstOf (rests.map (.cat (Expr.chain common)))) := by
    refine firstOf_congr (h.refl _) h.alt ?_
    rw [← hrests, List.map_map, List.forall₂_map_right_iff, List.forall₂_same]
    exact fun e he => h.split (hcommon e he)
  have taken := h.cat_firstOf (h.chain hfree) hne'
  refine h.trans apart (h.trans taken (h.trans (h.cat hrest) (h.flat ?_)))
  simp [Expr.flat, flat_chain, flat_concat]

theorem choiceWithin (fuel : Nat) (parts : List Expr)
    (hfree : ∀ e ∈ takenOutWithin fuel parts, free e) :
    R (firstOf parts) (choiceWithin fuel parts) := by
  induction fuel generalizing parts with
  | zero =>
      refine h.trans (h.flatMap_branches parts) ?_
      unfold Expr.choiceWithin
      simp only
      split
      · exact h.refl _
      next hlength =>
        split
        next s hs => exact h.merged (by rintro hnil; simp [hnil] at hlength) hs
        next => exact h.refl _
  | succ fuel ih =>
      refine h.trans (h.flatMap_branches parts) ?_
      unfold takenOutWithin at hfree
      unfold Expr.choiceWithin
      simp only at hfree ⊢
      split
      · exact h.refl _
      next hlength =>
        have hne : parts.flatMap branches ≠ [] := by
          intro hnil
          simp [hnil] at hlength
        rw [if_neg hlength] at hfree
        split
        next s hs => exact h.merged hne hs
        next hnone =>
          simp only [hnone] at hfree
          split
          next head tail hfuel hcommon =>
            cases hfuel
            simp only [hcommon, List.forall_mem_append] at hfree
            exact h.common hne hfree.1 (fun e he => hcommon ▸ commonFactors_isPrefix he)
              (ih _ hfree.2)
          next => exact h.refl _

/-- **A choice in the place of its branches.** -/
theorem choice (hfree : ∀ e ∈ takenOut parts, free e) : R (firstOf parts) (choice parts) :=
  h.choiceWithin _ parts hfree

end Allows

end ParamTemplate.Regex.Expr
