/-
**What the functions that build expressions keep.**

Concatenations and choices are simplified while they are built: nested ones are opened up,
neighbouring texts are joined, branches that are single characters or sets become one set, and what
all branches begin with is taken out of a choice.  None of this changes the runs of an expression,
so that a concatenation runs as its parts one after the other, and a choice as one of its branches.

Main definitions:

* `Regex.Expr.RunAll` — the runs of several expressions, one after the other;
* `Regex.Expr.Chosen` — how a choice comes about.

Main results:

* `Regex.Expr.run_concat` — **a concatenation runs as its parts one after the other**;
* `Regex.Expr.run_choice` — **a choice runs as one of its branches**.
-/

import ParamTemplate.Proofs.Regex.Matching

set_option autoImplicit false

namespace ParamTemplate.Regex.Expr

variable {text : List Char} {e : Expr} {es parts : List Expr} {i j : Nat} {saves : List Save}

/-! ### Concatenations -/

/-- The runs of several expressions, one after the other. -/
def RunAll (text : List Char) : List Expr → Nat → List Save → Nat → Prop
  | [], i, saves, j => saves = [] ∧ j = i
  | e :: es, i, saves, j =>
      ∃ first k rest, e.Run text i first k ∧ RunAll text es k rest j ∧ saves = first ++ rest

theorem runAll_append {more : List Expr} :
    RunAll text (es ++ more) i saves j ↔
      ∃ first k rest, RunAll text es i first k ∧ RunAll text more k rest j ∧
        saves = first ++ rest := by
  induction es generalizing i saves with
  | nil =>
      constructor
      · intro h
        exact ⟨[], i, saves, ⟨rfl, rfl⟩, h, rfl⟩
      · rintro ⟨_, _, rest, ⟨rfl, rfl⟩, h, rfl⟩
        exact h
  | cons e es ih =>
      constructor
      · rintro ⟨first, k, rest, he, hes, rfl⟩
        obtain ⟨second, l, third, hsecond, hthird, rfl⟩ := ih.1 hes
        exact ⟨first ++ second, l, third, ⟨first, k, second, he, hsecond, rfl⟩, hthird, by simp⟩
      · rintro ⟨_, l, third, ⟨first, k, second, he, hsecond, rfl⟩, hthird, rfl⟩
        exact ⟨first, k, second ++ third, he, ih.2 ⟨second, l, third, hsecond, hthird, rfl⟩,
          by simp⟩

theorem runAll_singleton : RunAll text [e] i saves j ↔ e.Run text i saves j := by
  constructor
  · rintro ⟨first, k, _, h, ⟨rfl, rfl⟩, rfl⟩
    rwa [List.append_nil]
  · intro h
    exact ⟨saves, j, [], h, ⟨rfl, rfl⟩, (List.append_nil saves).symm⟩

/-- The parts of a concatenation run as it does. -/
theorem runAll_factors : RunAll text e.factors i saves j ↔ e.Run text i saves j := by
  induction e generalizing i saves with
  | empty => exact Iff.rfl
  | cat left right _ ih =>
      simp only [factors, RunAll, Run, ih]
  | text | set | look | group | repetition | alt => exact runAll_singleton

theorem run_chain : (chain es).Run text i saves j ↔ RunAll text es i saves j := by
  induction es generalizing i saves with
  | nil => exact Iff.rfl
  | cons e es ih =>
      cases es with
      | nil => exact runAll_singleton.symm
      | cons e' es => simp only [chain, Run, RunAll] at ih ⊢; simp only [ih]

theorem runAll_flatMap_factors :
    RunAll text (parts.flatMap factors) i saves j ↔ RunAll text parts i saves j := by
  induction parts generalizing i saves with
  | nil => exact Iff.rfl
  | cons e parts ih =>
      rw [List.flatMap_cons, runAll_append]
      simp only [runAll_factors, ih, RunAll]

/-- Joining two texts changes nothing. -/
theorem runAll_consFactor :
    RunAll text (consFactor e es) i saves j ↔ RunAll text (e :: es) i saves j := by
  unfold consFactor
  split
  next chars more rest =>
    simp only [RunAll, Run, List.length_append, append_isPrefix_drop]
    constructor
    · rintro ⟨_, _, later, ⟨rfl, rfl, hchars, hmore⟩, hrest, hsaves⟩
      exact ⟨[], _, later, ⟨rfl, rfl, hchars⟩,
        ⟨[], _, later, ⟨rfl, rfl, hmore⟩, by rwa [Nat.add_assoc], rfl⟩, hsaves⟩
    · rintro ⟨_, _, _, ⟨rfl, rfl, hchars⟩, ⟨_, _, later, ⟨rfl, rfl, hmore⟩, hrest, hlater⟩, hsaves⟩
      rw [hlater] at hsaves
      exact ⟨[], _, later, ⟨rfl, rfl, hchars, hmore⟩, by rwa [← Nat.add_assoc], hsaves⟩
  · exact Iff.rfl

theorem runAll_foldr_consFactor :
    RunAll text (es.foldr consFactor []) i saves j ↔ RunAll text es i saves j := by
  induction es generalizing i saves with
  | nil => exact Iff.rfl
  | cons e es ih =>
      rw [List.foldr_cons, runAll_consFactor]
      simp only [RunAll, ih]

/-- **A concatenation runs as its parts one after the other.** -/
theorem run_concat : (concat parts).Run text i saves j ↔ RunAll text parts i saves j := by
  rw [concat, run_chain, runAll_foldr_consFactor, runAll_flatMap_factors]

/-! ### Repetitions -/

/-- What becomes of a repetition: nothing, its body, or a repetition of it. -/
theorem repeated_cases (min : Nat) (max : Option Nat) (greedy : Bool) (e : Expr) :
    repeated min max greedy e = empty ∨ repeated min max greedy e = e ∨
      ∃ min' max', repeated min max greedy e = repetition min' max' greedy e := by
  unfold repeated
  generalize (if e.isZeroWidth then (Nat.min min 1, some (Nat.min (max.getD 1) 1))
    else (min, max)) = bounds
  obtain ⟨min', max'⟩ := bounds
  dsimp only
  split
  · exact .inl rfl
  · split
    · exact .inr (.inl rfl)
    · exact .inr (.inr ⟨min', max', rfl⟩)

/-! ### Choices -/

theorem run_firstOf : (firstOf es).Run text i saves j ↔ ∃ e ∈ es, e.Run text i saves j := by
  induction es with
  | nil => simp [firstOf, Run]
  | cons e es ih =>
      cases es with
      | nil => simp [firstOf]
      | cons e' es => simp only [firstOf, Run, ih, List.mem_cons , exists_eq_or_imp]

/-- A choice runs as one of its branches. -/
theorem run_branches : (∃ b ∈ e.branches, b.Run text i saves j) ↔ e.Run text i saves j := by
  induction e with
  | alt left right _ ih => simp only [branches, List.mem_cons, exists_eq_or_imp, ih, Run]
  | empty | text | set | look | group | repetition | cat => simp [branches]

theorem run_flatMap_branches :
    (∃ e ∈ parts.flatMap branches, e.Run text i saves j) ↔ ∃ e ∈ parts, e.Run text i saves j := by
  constructor
  · rintro ⟨b, hb, hrun⟩
    obtain ⟨e, he, hbranch⟩ := List.mem_flatMap.1 hb
    exact ⟨e, he, run_branches.1 ⟨b, hbranch, hrun⟩⟩
  · rintro ⟨e, he, hrun⟩
    obtain ⟨b, hbranch, hb⟩ := run_branches.2 hrun
    exact ⟨b, List.mem_flatMap.2 ⟨e, he, hbranch⟩, hb⟩

/-- A set runs over one of its characters. -/
theorem run_ofSet {ascii : Bool} {s : CharSet} :
    (ofSet ascii s).Run text i saves j ↔
      saves = [] ∧ j = i + 1 ∧ ∃ c, text[i]? = some c ∧ s.contains c := by
  unfold ofSet
  split
  next c hc =>
    simp only [Run, List.length_singleton, cons_isPrefix_drop, List.nil_prefix, and_true,
      CharSet.contains_of_single? hc, decide_eq_true_iff, exists_eq_right]
  · exact Iff.rfl

/-- If some options are there, the list has their values. -/
theorem eq_map_of_mapM {α β : Type} {f : α → Option β} {g : β → α}
    (h : ∀ a b, f a = some b → a = g b) {as : List α} {bs : List β} (hm : as.mapM f = some bs) :
    as = bs.map g := by
  induction as generalizing bs with
  | nil => simp_all
  | cons a as ih =>
      simp only [List.mapM_cons, Option.bind_eq_bind, Option.bind_eq_some_iff] at hm
      obtain ⟨b, hb, bs, hbs, hpure⟩ := hm
      cases hpure
      rw [List.map_cons, ← ih hbs, ← h a b hb]

theorem eq_text_of_char? {c : Char} (h : e.char? = some c) : e = .text [c] := by
  unfold char? at h
  split at h
  · cases h
    rfl
  · cases h

theorem eq_set_of_set? {s : Bool × CharSet} (h : e.set? = some s) : e = .set s.1 s.2 := by
  unfold set? at h
  split at h
  · cases h
    rfl
  · cases h

/-- The set that all branches make together runs as they do. -/
theorem run_of_mergedSet? {s : CharSet} (h : mergedSet? parts = some s) :
    (ofSet false s).Run text i saves j ↔ ∃ e ∈ parts, e.Run text i saves j := by
  rw [run_ofSet]
  rcases Option.or_eq_some_iff.1 h with hchars | ⟨_, hsets⟩
  · obtain ⟨chars, hparts, rfl⟩ := Option.map_eq_some_iff.1 hchars
    obtain rfl := eq_map_of_mapM (fun _ _ => eq_text_of_char?) hparts
    simp [Run, cons_isPrefix_drop]
    grind
  · obtain ⟨sets, hparts, rfl⟩ := Option.map_eq_some_iff.1 hsets
    obtain rfl := eq_map_of_mapM (fun _ _ => eq_set_of_set?) hparts
    constructor
    · rintro ⟨rfl, rfl, c, hc, hs⟩
      rw [CharSet.contains_unions, List.any_map, List.any_eq_true] at hs
      obtain ⟨s, hsets, hs⟩ := hs
      exact ⟨_, List.mem_map_of_mem hsets, rfl, rfl, c, hc, hs⟩
    · rintro ⟨_, he, hrun⟩
      obtain ⟨s, hsets, rfl⟩ := List.mem_map.1 he
      obtain ⟨rfl, rfl, c, hc, hs⟩ := hrun
      refine ⟨rfl, rfl, c, hc, ?_⟩
      rw [CharSet.contains_unions, List.any_map, List.any_eq_true]
      exact ⟨s, hsets, hs⟩

theorem commonPrefix_isPrefix_left (ds es : List Expr) : commonPrefix ds es <+: ds := by
  fun_induction commonPrefix ds es with
  | case1 d ds es ih => exact List.cons_prefix_cons.2 ⟨rfl, ih⟩
  | case2 | case3 => exact List.nil_prefix

theorem commonPrefix_isPrefix_right (ds es : List Expr) : commonPrefix ds es <+: es := by
  fun_induction commonPrefix ds es with
  | case1 d ds es ih => exact List.cons_prefix_cons.2 ⟨rfl, ih⟩
  | case2 | case3 => exact List.nil_prefix

theorem foldl_commonPrefix_isPrefix (lists : List (List Expr)) (first : List Expr) :
    lists.foldl commonPrefix first <+: first ∧
      ∀ list ∈ lists, lists.foldl commonPrefix first <+: list := by
  induction lists generalizing first with
  | nil => simp
  | cons list lists ih =>
      obtain ⟨hfirst, hlists⟩ := ih (commonPrefix first list)
      refine ⟨hfirst.trans (commonPrefix_isPrefix_left ..), fun l hl => ?_⟩
      rcases List.mem_cons.1 hl with rfl | hl
      · exact hfirst.trans (commonPrefix_isPrefix_right ..)
      · exact hlists l hl

/-- What all branches begin with is what each of them begins with. -/
theorem commonFactors_isPrefix (he : e ∈ parts) : commonFactors parts <+: e.factors := by
  unfold commonFactors
  cases parts with
  | nil => cases he
  | cons first rest =>
      simp only [List.map_cons]
      split
      next =>
        obtain ⟨hfirst, hrest⟩ := foldl_commonPrefix_isPrefix (rest.map factors) first.factors
        rcases List.mem_cons.1 he with rfl | he
        · exact hfirst
        · exact hrest _ (List.mem_map_of_mem he)
      next => exact List.nil_prefix

/-- Taking out what all branches begin with. -/
theorem run_common {common : List Expr} {rest : Expr}
    (hcommon : ∀ e ∈ parts, common <+: e.factors)
    (hrest : ∀ {i saves}, rest.Run text i saves j ↔
      ∃ e ∈ parts.map fun e => concat (e.factors.drop common.length), e.Run text i saves j) :
    (concat (common ++ [rest])).Run text i saves j ↔ ∃ e ∈ parts, e.Run text i saves j := by
  -- A branch runs as what it begins with and then as what is left of it.
  have split : ∀ e ∈ parts, e.Run text i saves j ↔ ∃ first k more,
      RunAll text common i first k ∧ RunAll text (e.factors.drop common.length) k more j ∧
        saves = first ++ more := by
    intro e he
    rw [← runAll_append, List.prefix_iff_eq_append.1 (hcommon e he), runAll_factors]
  rw [run_concat, runAll_append]
  simp only [runAll_singleton, hrest, List.mem_map]
  constructor
  · rintro ⟨first, k, more, hfirst, ⟨_, ⟨e, he, rfl⟩, hmore⟩, rfl⟩
    exact ⟨e, he, (split e he).2 ⟨first, k, more, hfirst, run_concat.1 hmore, rfl⟩⟩
  · rintro ⟨e, he, hrun⟩
    obtain ⟨first, k, more, hfirst, hmore, rfl⟩ := (split e he).1 hrun
    exact ⟨first, k, more, hfirst, ⟨_, ⟨e, he, rfl⟩, run_concat.2 hmore⟩, rfl⟩

/-- **How a choice comes about:** its branches are opened up, and then they are tried in order, or
one set is made of them, or what all of them begin with is taken out. -/
inductive Chosen : List Expr → Expr → Prop where
  | firstOf (parts : List Expr) : Chosen parts (firstOf (parts.flatMap branches))
  | merged {parts : List Expr} {s : CharSet} (h : mergedSet? (parts.flatMap branches) = some s) :
      Chosen parts (ofSet false s)
  | common {parts common : List Expr} {rest : Expr} (several : 1 < (parts.flatMap branches).length)
      (starts : ∀ e ∈ parts.flatMap branches, common <+: e.factors)
      (h : Chosen
        ((parts.flatMap branches).map fun e => concat (e.factors.drop common.length)) rest) :
      Chosen parts (concat (common ++ [rest]))

theorem chosen_choiceWithin (fuel : Nat) (parts : List Expr) :
    Chosen parts (choiceWithin fuel parts) := by
  induction fuel generalizing parts with
  | zero =>
      unfold choiceWithin
      simp only
      split
      · exact .firstOf parts
      · split
        next s hs => exact .merged hs
        next => exact .firstOf parts
  | succ fuel ih =>
      unfold choiceWithin
      simp only
      split
      · exact .firstOf parts
      next hlength =>
        split
        next s hs => exact .merged hs
        next =>
          split
          next head tail hfuel hcommon =>
            cases hfuel
            exact .common (Nat.lt_of_not_le hlength)
              (fun e he => hcommon ▸ commonFactors_isPrefix he) (ih _)
          next => exact .firstOf parts

theorem chosen_choice (parts : List Expr) : Chosen parts (choice parts) := chosen_choiceWithin ..

theorem Chosen.run_iff (h : Chosen parts e) :
    e.Run text i saves j ↔ ∃ e ∈ parts, e.Run text i saves j := by
  induction h generalizing i saves with
  | firstOf parts => rw [run_firstOf, run_flatMap_branches]
  | merged hs => rw [run_of_mergedSet? hs, run_flatMap_branches]
  | common _ hcommon _ ih =>
      rw [← run_flatMap_branches]
      exact run_common hcommon ih

/-- **A choice runs as one of its branches.** -/
theorem run_choice :
    (choice parts).Run text i saves j ↔ ∃ e ∈ parts, e.Run text i saves j :=
  (chosen_choice parts).run_iff

end ParamTemplate.Regex.Expr
