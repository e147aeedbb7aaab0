/-
**Other numbers for the groups of an expression.**

The same text read at another place of a longer one makes the same expression with other numbers for
its groups.  Nothing that is done with an expression looks at these numbers except to compare two
expressions, so that building expressions commutes with renumbering as long as different numbers
stay different.  A renumbered expression matches what the expression matches.

Main definitions:

* `Regex.Expr.renumber` — an expression with other numbers for its groups.

Main results:

* `Regex.Expr.renumber_concat`, `Regex.Expr.renumber_choice`, `Regex.Expr.renumber_repeated` —
  **building expressions commutes with renumbering**;
* `Regex.Expr.matches_renumber` — **renumbering changes no match**.
-/

import ParamTemplate.Proofs.Regex.Matching

set_option autoImplicit false

namespace ParamTemplate.Regex.Expr

/-- An expression with other numbers for its groups. -/
@[simp] def renumber (f : Nat → Nat) : Expr → Expr
  | empty => empty
  | text chars => text chars
  | set ascii s => set ascii s
  | look k => look k
  | group index body => group (f index) (body.renumber f)
  | repetition min max greedy body => repetition min max greedy (body.renumber f)
  | cat left right => cat (left.renumber f) (right.renumber f)
  | alt left right => alt (left.renumber f) (right.renumber f)

variable {f : Nat → Nat} {e : Expr} {es parts : List Expr}

@[simp] theorem renumber_id (e : Expr) : e.renumber id = e := by
  induction e <;> simp_all [renumber]

theorem numbers_renumber (e : Expr) : (e.renumber f).numbers = e.numbers.map f := by
  induction e <;> simp_all [renumber, numbers]

/-- Renumbering keeps expressions apart if it keeps numbers apart. -/
theorem renumber_injective (hf : Function.Injective f) : Function.Injective (renumber f) := by
  intro e
  induction e with
  | empty | text | set | look =>
      intro e' h
      cases e' <;> simp_all [renumber]
  | group index body ih =>
      intro e' h
      cases e' with
      | group index' body' =>
          simp only [renumber, group.injEq] at h
          rw [hf h.1, ih h.2]
      | _ => simp [renumber] at h
  | repetition min max greedy body ih =>
      intro e' h
      cases e' with
      | repetition min' max' greedy' body' =>
          simp only [renumber, repetition.injEq] at h
          obtain ⟨rfl, rfl, rfl, h⟩ := h
          rw [ih h]
      | _ => simp [renumber] at h
  | cat left right ihl ihr =>
      intro e' h
      cases e' with
      | cat left' right' =>
          simp only [renumber, cat.injEq] at h
          rw [ihl h.1, ihr h.2]
      | _ => simp [renumber] at h
  | alt left right ihl ihr =>
      intro e' h
      cases e' with
      | alt left' right' =>
          simp only [renumber, alt.injEq] at h
          rw [ihl h.1, ihr h.2]
      | _ => simp [renumber] at h

/-! ### Concatenations -/

theorem factors_renumber (e : Expr) : (e.renumber f).factors = e.factors.map (renumber f) := by
  induction e <;> simp_all [renumber, factors]

theorem renumber_chain : (chain es).renumber f = chain (es.map (renumber f)) := by
  induction es with
  | nil => rfl
  | cons e es ih =>
      cases es with
      | nil => rfl
      | cons e' es => simpa [chain, renumber] using ih

theorem map_consFactor :
    (consFactor e es).map (renumber f) = consFactor (e.renumber f) (es.map (renumber f)) := by
  cases e with
  | text chars =>
      cases es with
      | nil => rfl
      | cons e' es => cases e' <;> rfl
  | _ => rfl

/-- **Concatenations commute with renumbering.** -/
theorem renumber_concat : (concat parts).renumber f = concat (parts.map (renumber f)) := by
  have folded : ∀ es : List Expr, (es.foldr consFactor []).map (renumber f) =
      (es.map (renumber f)).foldr consFactor [] := by
    intro es
    induction es with
    | nil => rfl
    | cons e es ih => rw [List.foldr_cons, map_consFactor, ih, List.map_cons, List.foldr_cons]
  rw [concat, renumber_chain, folded, concat]
  congr 2
  simp only [List.map_flatMap, List.flatMap_map, factors_renumber]

/-! ### Choices -/

theorem branches_renumber (e : Expr) : (e.renumber f).branches = e.branches.map (renumber f) := by
  induction e <;> simp_all [renumber, branches]

theorem renumber_firstOf : (firstOf es).renumber f = firstOf (es.map (renumber f)) := by
  induction es with
  | nil => rfl
  | cons e es ih =>
      cases es with
      | nil => rfl
      | cons e' es => simpa [firstOf, renumber] using ih

@[simp] theorem renumber_ofSet (ascii : Bool) (s : CharSet) :
    (ofSet ascii s).renumber f = ofSet ascii s := by
  unfold ofSet
  split <;> rfl

theorem char?_renumber (e : Expr) : (e.renumber f).char? = e.char? := by
  cases e <;> rfl

theorem set?_renumber (e : Expr) : (e.renumber f).set? = e.set? := by
  cases e <;> rfl

theorem mergedSet?_map_renumber : mergedSet? (parts.map (renumber f)) = mergedSet? parts := by
  have chars : (parts.map (renumber f)).mapM char? = parts.mapM char? := by
    simp only [List.mapM_map, Function.comp_def, char?_renumber]
  have sets : (parts.map (renumber f)).mapM set? = parts.mapM set? := by
    simp only [List.mapM_map, Function.comp_def, set?_renumber]
  rw [mergedSet?, chars, sets, mergedSet?]

theorem map_commonPrefix (hf : Function.Injective f) (ds es : List Expr) :
    (commonPrefix ds es).map (renumber f) =
      commonPrefix (ds.map (renumber f)) (es.map (renumber f)) := by
  induction ds generalizing es with
  | nil => rfl
  | cons d ds ih =>
      cases es with
      | nil => rfl
      | cons e es =>
          simp only [commonPrefix, List.map_cons, (renumber_injective hf).eq_iff]
          split
          · rw [List.map_cons, ih]
          · rfl

theorem map_commonFactors (hf : Function.Injective f) :
    (commonFactors parts).map (renumber f) = commonFactors (parts.map (renumber f)) := by
  have folded : ∀ (lists : List (List Expr)) (first : List Expr),
      (lists.foldl commonPrefix first).map (renumber f) =
        (lists.map (List.map (renumber f))).foldl commonPrefix (first.map (renumber f)) := by
    intro lists
    induction lists with
    | nil => intro first; rfl
    | cons list lists ih =>
        intro first
        rw [List.foldl_cons, ih, map_commonPrefix hf, List.map_cons, List.foldl_cons]
  cases parts with
  | nil => rfl
  | cons first rest =>
      simp only [commonFactors, List.map_cons, List.map_map, Function.comp_def, factors_renumber,
        List.all_cons, List.all_map, List.length_map]
      split
      · rw [folded, List.map_map]
        rfl
      · rfl

theorem renumber_choiceWithin (hf : Function.Injective f) (fuel : Nat) :
    (choiceWithin fuel parts).renumber f = choiceWithin fuel (parts.map (renumber f)) := by
  have opened : ∀ es : List Expr, (es.map (renumber f)).flatMap branches =
      (es.flatMap branches).map (renumber f) := by
    simp only [List.map_flatMap, List.flatMap_map, branches_renumber, implies_true]
  induction fuel generalizing parts with
  | zero =>
      unfold choiceWithin
      simp only [opened, List.length_map, mergedSet?_map_renumber]
      split
      · exact renumber_firstOf
      · split
        · exact renumber_ofSet ..
        · exact renumber_firstOf
  | succ fuel ih =>
      unfold choiceWithin
      simp only [opened, List.length_map, mergedSet?_map_renumber, ← map_commonFactors hf]
      split
      · exact renumber_firstOf
      · split
        · exact renumber_ofSet ..
        · cases commonFactors (parts.flatMap branches) with
          | nil => exact renumber_firstOf
          | cons first common =>
              simp only [List.map_cons, renumber_concat, List.map_append, List.map_nil]
              rw [ih]
              simp only [List.map_map, Function.comp_def, renumber_concat, factors_renumber,
                List.map_drop, List.length_cons, List.length_map]

/-- **Choices commute with renumbering.** -/
theorem renumber_choice (hf : Function.Injective f) :
    (choice parts).renumber f = choice (parts.map (renumber f)) := by
  rw [choice, renumber_choiceWithin hf, choice]
  simp only [List.flatMap_map, factors_renumber, List.length_flatMap, List.length_map]

/-! ### Repetitions -/

theorem isZeroWidth_renumber (e : Expr) : (e.renumber f).isZeroWidth = e.isZeroWidth := by
  induction e <;> simp_all [renumber, isZeroWidth]

/-- **Repetitions commute with renumbering.** -/
theorem renumber_repeated (min : Nat) (max : Option Nat) (greedy : Bool) :
    (repeated min max greedy e).renumber f = repeated min max greedy (e.renumber f) := by
  unfold repeated
  rw [isZeroWidth_renumber]
  generalize (if e.isZeroWidth then (Nat.min min 1, some (Nat.min (max.getD 1) 1))
    else (min, max)) = bounds
  dsimp only
  split
  · rfl
  · split <;> rfl

/-! ### Matches -/

/-- **Renumbering changes no match.** -/
theorem matches_renumber {text : List Char} {i j : Nat} :
    (e.renumber f).Matches text i j ↔ e.Matches text i j := by
  induction e generalizing i j with
  | empty | text | set | look => exact Iff.rfl
  | group index body ih => rw [renumber, matches_group, matches_group, ih]
  | repetition min max greedy body ih =>
      rw [renumber, matches_repetition, matches_repetition]
      constructor
      · rintro ⟨n, hmin, hmax, hrounds⟩
        exact ⟨n, hmin, hmax, exists_rounds_congr (fun _ _ => ih.1) hrounds⟩
      · rintro ⟨n, hmin, hmax, hrounds⟩
        exact ⟨n, hmin, hmax, exists_rounds_congr (fun _ _ => ih.2) hrounds⟩
  | cat left right ihl ihr => simp only [renumber, matches_cat, ihl, ihr]
  | alt left right ihl ihr => simp only [renumber, matches_alt, ihl, ihr]

end ParamTemplate.Regex.Expr
