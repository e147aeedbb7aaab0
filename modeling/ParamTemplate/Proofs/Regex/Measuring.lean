/-
**What is known of the length of a match.**

How an expression is built must not change what is known of the length of its matches, since the
bounds of a repetition depend on it and so do its instructions.  Whether all matches are empty never
changes.  The length of the shortest match does not change either, but it is given up where a set
without characters is seen, and such a set is no longer seen when it has become a part of another
one.

Main definitions:

* `Regex.Expr.shortest` — the length of the shortest match, as if no set were without characters;
* `Regex.Expr.isSized` — no set without characters is seen.

Main results:

* `Regex.Expr.isZeroWidth_choice`, `Regex.Expr.shortest_choice` — **a choice is as its branches**;
* `Regex.Expr.consumes_eq` — what the instructions of a repetition depend on.
-/

import Mathlib.Algebra.GroupWithZero.Nat
import ParamTemplate.Proofs.Regex.Simplifying

set_option autoImplicit false

namespace ParamTemplate

/-! ### Sets without characters -/

namespace CharSet

/-- A set is without characters if it is without codes. -/
theorem isEmpty_eq_false_iff {s : CharSet} : s.isEmpty = false ↔ ∃ n, s.containsCode n := by
  obtain ⟨cuts, sorted⟩ := s
  cases cuts with
  | nil => simp [isEmpty, containsCode, insideAt]
  | cons x cuts =>
      have hx : insideAt x true cuts = true :=
        insideAt_eq_of_lt fun y hy => (List.pairwise_cons.1 sorted).1 y hy
      simp only [isEmpty, List.isEmpty_cons, containsCode, true_iff]
      exact ⟨x, by simpa [insideAt] using hx⟩

theorem containsCode_union (s t : CharSet) (n : Nat) :
    (s.union t).containsCode n = (s.containsCode n || t.containsCode n) :=
  containsCode_combine rfl ..

theorem containsCode_foldl_union (sets : List CharSet) (s : CharSet) (n : Nat) :
    (sets.foldl union s).containsCode n =
      (s.containsCode n || sets.any (·.containsCode n)) := by
  induction sets generalizing s with
  | nil => simp
  | cons t sets ih =>
      rw [List.foldl_cons, ih, containsCode_union, List.any_cons, Bool.or_assoc]

/-- A union of sets with characters has characters. -/
theorem isEmpty_unions {sets : List CharSet} {s : CharSet} (hs : s ∈ sets)
    (h : s.isEmpty = false) : (unions sets).isEmpty = false := by
  obtain ⟨n, hn⟩ := isEmpty_eq_false_iff.1 h
  refine isEmpty_eq_false_iff.2 ⟨n, ?_⟩
  rw [unions, containsCode_foldl_union, List.any_eq_true.2 ⟨s, hs, hn⟩, Bool.or_true]

end CharSet

namespace Regex.Expr

variable {e e' : Expr} {parts : List Expr}

/-! ### Measures -/

/-- **The length of the shortest match,** as if no set were without characters. -/
def shortest : Expr → Nat
  | empty | look _ => 0
  | text chars => chars.length
  | set .. => 1
  | group _ body => body.shortest
  | repetition min _ _ body => min * body.shortest
  | cat left right => left.shortest + right.shortest
  | alt left right => Nat.min left.shortest right.shortest

/-- **Whether no set without characters is seen.** -/
def isSized (e : Expr) : Bool := e.minLength?.isSome

theorem isSized_cat (left right : Expr) :
    (cat left right).isSized = (left.isSized && right.isSized) := by
  rw [isSized, minLength?, isSized, isSized]
  cases left.minLength? <;> cases right.minLength? <;> rfl

theorem isSized_alt (left right : Expr) :
    (alt left right).isSized = (left.isSized && right.isSized) := by
  rw [isSized, minLength?, isSized, isSized]
  cases left.minLength? <;> cases right.minLength? <;> rfl

theorem isSized_set (ascii : Bool) (s : CharSet) : (set ascii s).isSized = !s.isEmpty := by
  unfold isSized minLength?
  cases s.isEmpty <;> rfl

theorem isSized_repetition (min : Nat) (max : Option Nat) (greedy : Bool) (e : Expr) :
    (repetition min max greedy e).isSized = e.isSized := Option.isSome_map

/-- What is known of the length of a match, if no set without characters is seen. -/
theorem minLength?_of_isSized (h : e.isSized) : e.minLength? = some e.shortest := by
  induction e with
  | empty | look | text => rfl
  | set ascii s =>
      rw [isSized_set, Bool.not_eq_true'] at h
      rw [minLength?, h]
      rfl
  | group index body ih => exact ih h
  | repetition min max greedy body ih =>
      rw [isSized_repetition] at h
      rw [minLength?, ih h]
      rfl
  | cat left right ihl ihr =>
      rw [isSized_cat, Bool.and_eq_true] at h
      rw [minLength?, ihl h.1, ihr h.2]
      rfl
  | alt left right ihl ihr =>
      rw [isSized_alt, Bool.and_eq_true] at h
      rw [minLength?, ihl h.1, ihr h.2]
      rfl

/-- **What the instructions of a repetition depend on.** -/
theorem consumes_eq (e : Expr) : e.consumes = (e.isSized && decide (0 < e.shortest)) := by
  cases h : e.isSized with
  | true =>
      rw [consumes, minLength?_of_isSized h]
      rfl
  | false =>
      rw [isSized, Option.isSome_eq_false_iff, Option.isNone_iff_eq_none] at h
      rw [consumes, h]
      rfl

/-! ### One after the other -/

theorem isZeroWidth_eq (e : Expr) : e.isZeroWidth = e.flat.all isZeroWidth := by
  induction e with
  | text chars => cases chars <;> simp [isZeroWidth, flat]
  | cat left right ihl ihr => rw [isZeroWidth, ihl, ihr, flat, List.all_append]
  | empty => rfl
  | set | look | group | repetition | alt => simp [flat]

theorem shortest_eq (e : Expr) : e.shortest = (e.flat.map shortest).sum := by
  induction e with
  | text chars => simp [shortest, flat, Function.comp_def]
  | cat left right ihl ihr => rw [shortest, ihl, ihr, flat, List.map_append, List.sum_append]
  | empty => rfl
  | set | look | group | repetition | alt => simp [flat]

theorem isSized_eq (e : Expr) : e.isSized = e.flat.all isSized := by
  induction e with
  | text chars => simp [isSized, minLength?, flat]
  | cat left right ihl ihr => rw [isSized_cat, ihl, ihr, flat, List.all_append]
  | empty => rfl
  | set | look | group | repetition | alt => simp [flat]

/-! ### Choices -/

/-- Branches that become one set are single characters or sets, and the set is without characters
only if they are. -/
theorem mem_of_mergedSet? {s : CharSet} (h : mergedSet? parts = some s) (he : e ∈ parts) :
    (∃ c, e = text [c] ∧ s.isEmpty = false) ∨
      ∃ ascii t, e = set ascii t ∧ (t.isEmpty = false → s.isEmpty = false) := by
  rcases Option.or_eq_some_iff.1 h with hchars | ⟨-, hsets⟩
  · obtain ⟨chars, hparts, rfl⟩ := Option.map_eq_some_iff.1 hchars
    obtain rfl := eq_map_of_mapM (fun _ _ => eq_text_of_char?) hparts
    obtain ⟨c, hc, rfl⟩ := List.mem_map.1 he
    have single : (CharSet.single c).isEmpty = false :=
      CharSet.isEmpty_eq_false_iff.2 ⟨c.toNat, (CharSet.contains_single c c).trans (by simp)⟩
    exact .inl ⟨c, rfl, CharSet.isEmpty_unions (List.mem_map_of_mem hc) single⟩
  · obtain ⟨sets, hparts, rfl⟩ := Option.map_eq_some_iff.1 hsets
    obtain rfl := eq_map_of_mapM (fun _ _ => eq_set_of_set?) hparts
    obtain ⟨t, ht, rfl⟩ := List.mem_map.1 he
    exact .inr ⟨t.1, t.2, rfl, CharSet.isEmpty_unions (List.mem_map_of_mem ht)⟩

/-- What is the same for all single characters and sets is the same for branches that become one
set. -/
theorem eq_of_mergedSet? {α : Type} {f : Expr → α}
    (htext : ∀ c, f (text [c]) = f (set true .empty))
    (hset : ∀ ascii s, f (set ascii s) = f (set true .empty))
    (halt : ∀ {a b}, f a = f (set true .empty) → f b = f (set true .empty) →
      f (alt a b) = f (set true .empty))
    {s : CharSet} (h : mergedSet? parts = some s) : f (firstOf parts) = f (ofSet false s) := by
  have branches : ∀ e ∈ parts, f e = f (set true .empty) := by
    intro e he
    rcases mem_of_mergedSet? h he with ⟨c, rfl, -⟩ | ⟨ascii, t, rfl, -⟩
    · exact htext c
    · exact hset ascii t
  have merged : f (ofSet false s) = f (set true .empty) := by
    unfold ofSet
    split
    · exact htext _
    · exact hset _ s
  rw [merged]
  clear h
  induction parts with
  | nil => rfl
  | cons e parts ih =>
      obtain ⟨he, hparts⟩ := List.forall_mem_cons.1 branches
      by_cases hne : parts = []
      · subst hne
        exact he
      · rw [firstOf_cons e hne]
        exact halt he (ih hparts)

theorem isZeroWidth_allows :
    Allows (fun e e' => e.isZeroWidth = e'.isZeroWidth) fun _ => True where
  trans := Eq.trans
  cat h := by rw [isZeroWidth, isZeroWidth, h]
  alt h h' := by rw [isZeroWidth, isZeroWidth, h, h']
  flat h := by rw [isZeroWidth_eq, h, ← isZeroWidth_eq]
  assoc _ _ _ := Bool.and_assoc ..
  distrib _ b c := by simp only [isZeroWidth]; grind
  merged _ h := by
    refine eq_of_mergedSet? (fun _ => rfl) (fun _ _ => rfl) (fun {a b} ha hb => ?_) h
    change (a.isZeroWidth && b.isZeroWidth) = _
    rw [ha, hb]
    rfl
  chain _ := trivial

theorem shortest_allows : Allows (fun e e' => e.shortest = e'.shortest) fun _ => True where
  trans := Eq.trans
  cat h := by rw [shortest, shortest, h]
  alt h h' := by rw [shortest, shortest, h, h']
  flat h := by rw [shortest_eq, h, ← shortest_eq]
  assoc _ _ _ := Nat.min_assoc ..
  distrib _ _ _ := Nat.add_min_add_left ..
  merged _ h := by
    refine eq_of_mergedSet? (fun _ => rfl) (fun _ _ => rfl) (fun {a b} ha hb => ?_) h
    change Nat.min a.shortest b.shortest = _
    rw [ha, hb]
    rfl
  chain _ := trivial

theorem isSized_allows : Allows (fun e e' => e.isSized → e'.isSized) fun _ => True where
  trans h h' := h' ∘ h
  cat h := by
    simp only [isSized_cat, Bool.and_eq_true]
    exact And.imp_right h
  alt h h' := by
    simp only [isSized_alt, Bool.and_eq_true]
    exact And.imp h h'
  flat h := by
    rw [isSized_eq, h, ← isSized_eq]
    exact id
  assoc a b c := by simp [isSized_alt, Bool.and_assoc]
  distrib _ b c := by
    simp only [isSized_alt, isSized_cat, Bool.and_eq_true]
    exact fun h => ⟨h.1.1, h.1.2, h.2.2⟩
  merged {parts s} hne hs h := by
    obtain ⟨e, rest, rfl⟩ := List.exists_cons_of_ne_nil hne
    have first : e.isSized := by
      by_cases hrest : rest = []
      · subst hrest
        exact h
      · rw [firstOf_cons e hrest, isSized_alt, Bool.and_eq_true] at h
        exact h.1
    unfold ofSet
    split
    · rfl
    · rw [isSized_set, Bool.not_eq_true']
      rcases mem_of_mergedSet? hs List.mem_cons_self with ⟨c, rfl, hchars⟩ | ⟨_, t, rfl, ht⟩
      · exact hchars
      · exact ht (by rwa [isSized_set, Bool.not_eq_true'] at first)
  chain _ := trivial

/-- **Whether all matches of a choice are empty** is as it is of its branches. -/
theorem isZeroWidth_choice (parts : List Expr) :
    (choice parts).isZeroWidth = (firstOf parts).isZeroWidth :=
  (isZeroWidth_allows.choice fun _ _ => trivial).symm

/-- **The shortest match of a choice** is that of one of its branches. -/
theorem shortest_choice (parts : List Expr) :
    (choice parts).shortest = (firstOf parts).shortest :=
  (shortest_allows.choice fun _ _ => trivial).symm

theorem isSized_choice (h : (firstOf parts).isSized) : (choice parts).isSized :=
  isSized_allows.choice (fun _ _ => trivial) h

/-! ### Repetitions -/

/-- **The body of a repetition may be replaced** if all matches of both bodies are empty or not of
either. -/
theorem repeated_congr {R : Expr → Expr → Prop} {min : Nat} {max : Option Nat} {greedy : Bool}
    (hz : e.isZeroWidth = e'.isZeroWidth) (hempty : R empty empty) (hbody : R e e')
    (hrepetition : ∀ min max, R (repetition min max greedy e) (repetition min max greedy e')) :
    R (repeated min max greedy e) (repeated min max greedy e') := by
  unfold repeated
  rw [hz]
  generalize (if e'.isZeroWidth then (Nat.min min 1, some (Nat.min (max.getD 1) 1))
    else (min, max)) = bounds
  obtain ⟨min', max'⟩ := bounds
  dsimp only
  split
  · exact hempty
  · split
    · exact hbody
    · exact hrepetition min' max'

end Regex.Expr

end ParamTemplate
