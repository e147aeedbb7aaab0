/-
**The groups of an accepted expression.**

Every group that is written with a number has a mark: where it starts, and its number.  Building an
expression may lose groups, when a repetition never happens, but it makes none and does not change
their order.  So the groups of an accepted expression are some of those that are written, and as
many as there are marks only if they are all of them.

Main results:

* `Regex.Pattern.numbers_sublist` — **the groups of a meaning are some of the written ones**;
* `Regex.groupCount_le` — an accepted expression has at most as many groups as are written;
* `Regex.compile_eq_ok_iff`, `Regex.compile_of_read` — what is accepted.
-/

import Mathlib.Data.List.Flatten
import ParamTemplate.Proofs.Regex.Building
import ParamTemplate.Proofs.Regex.Relabelling
import ParamTemplate.Regex

set_option autoImplicit false

namespace ParamTemplate.Regex

/-! ### Building expressions -/

namespace Expr

variable {e : Expr} {es parts : List Expr}

/-- An expression has as many groups as there are numbers in it. -/
theorem length_numbers (e : Expr) : e.numbers.length = e.groupCount := by
  induction e <;> simp_all [numbers, groupCount]

theorem flatMap_numbers_factors (e : Expr) : e.factors.flatMap numbers = e.numbers := by
  induction e with
  | empty => rfl
  | cat left right _ ih => rw [factors, List.flatMap_cons, ih, numbers]
  | text | set | look | group | repetition | alt => simp [factors]

theorem flatMap_numbers_branches (e : Expr) : e.branches.flatMap numbers = e.numbers := by
  induction e with
  | alt left right _ ih => rw [branches, List.flatMap_cons, ih, numbers]
  | empty | text | set | look | group | repetition | cat => simp [branches]

theorem numbers_chain (es : List Expr) : (chain es).numbers = es.flatMap numbers := by
  induction es with
  | nil => rfl
  | cons e es ih =>
      cases es with
      | nil => simp [chain]
      | cons e' es =>
          change e.numbers ++ (chain (e' :: es)).numbers = _
          rw [ih]
          rfl

theorem numbers_firstOf (es : List Expr) : (firstOf es).numbers = es.flatMap numbers := by
  induction es with
  | nil => rfl
  | cons e es ih =>
      cases es with
      | nil => simp [firstOf]
      | cons e' es =>
          change e.numbers ++ (firstOf (e' :: es)).numbers = _
          rw [ih]
          rfl

theorem flatMap_numbers_foldr (es : List Expr) :
    (es.foldr consFactor []).flatMap numbers = es.flatMap numbers := by
  induction es with
  | nil => rfl
  | cons e es ih =>
      rw [List.foldr_cons, List.flatMap_cons, ← ih]
      generalize es.foldr consFactor [] = rest
      unfold consFactor
      split
      · simp [numbers]
      · rw [List.flatMap_cons]

/-- **A concatenation has the groups of its parts.** -/
theorem numbers_concat (parts : List Expr) : (concat parts).numbers = parts.flatMap numbers := by
  rw [concat, numbers_chain, flatMap_numbers_foldr]
  induction parts with
  | nil => rfl
  | cons e parts ih =>
      rw [List.flatMap_cons, List.flatMap_append, ih, flatMap_numbers_factors, List.flatMap_cons]

theorem numbers_ofSet (ascii : Bool) (s : CharSet) : (ofSet ascii s).numbers = [] := by
  unfold ofSet
  split <;> rfl

/-- A repetition keeps its groups, unless it is one of zero times. -/
theorem numbers_repeated (min : Nat) (max : Option Nat) (greedy : Bool) (e : Expr) :
    (repeated min max greedy e).numbers = if max = some 0 then [] else e.numbers := by
  have bound : (if e.isZeroWidth then (Nat.min min 1, some (Nat.min (max.getD 1) 1))
      else (min, max)).2 = some 0 ↔ max = some 0 := by
    split
    · cases max <;> simp
    · exact Iff.rfl
  unfold repeated
  generalize (if e.isZeroWidth then (Nat.min min 1, some (Nat.min (max.getD 1) 1))
    else (min, max)) = bounds at bound
  obtain ⟨min', max'⟩ := bounds
  dsimp only at bound ⊢
  simp only [bound]
  split
  · rfl
  · split <;> rfl

/-- Repeating an expression may lose its groups. -/
theorem numbers_repeated_sublist (min : Nat) (max : Option Nat) (greedy : Bool) (e : Expr) :
    (repeated min max greedy e).numbers.Sublist e.numbers := by
  rw [numbers_repeated]
  split
  · exact List.nil_sublist _
  · exact List.Sublist.refl _

/-- What all branches begin with has its groups from the first of them. -/
theorem numbers_common_sublist {common : List Expr} (hne : parts ≠ [])
    (h : ∀ e ∈ parts, common <+: e.factors) :
    (common.flatMap numbers ++
      (parts.map fun e => concat (e.factors.drop common.length)).flatMap numbers).Sublist
        (parts.flatMap numbers) := by
  cases parts with
  | nil => exact absurd rfl hne
  | cons first parts =>
      obtain ⟨hfirst, hparts⟩ := List.forall_mem_cons.1 h
      obtain ⟨rest, hrest⟩ := hfirst
      have dropped : first.factors.drop common.length = rest := by
        rw [← hrest, List.drop_left]
      have whole : common.flatMap numbers ++ rest.flatMap numbers = first.numbers := by
        rw [← List.flatMap_append, hrest, flatMap_numbers_factors]
      rw [List.map_cons, List.flatMap_cons, numbers_concat, dropped, ← List.append_assoc, whole,
        List.flatMap_cons, List.flatMap_map]
      refine List.Sublist.append (List.Sublist.refl _) (List.Sublist.flatMap_right _ fun e _ => ?_)
      rw [numbers_concat, ← flatMap_numbers_factors e]
      exact (List.drop_sublist ..).flatMap numbers

theorem flatMap_numbers_opened (parts : List Expr) :
    (parts.flatMap branches).flatMap numbers = parts.flatMap numbers := by
  rw [List.flatMap_assoc]
  simp only [flatMap_numbers_branches]

/-- A choice has no other groups than its branches. -/
theorem Chosen.numbers_sublist (h : Chosen parts e) :
    e.numbers.Sublist (parts.flatMap numbers) := by
  induction h with
  | firstOf parts => rw [numbers_firstOf, flatMap_numbers_opened]
  | merged =>
      rw [numbers_ofSet]
      exact List.nil_sublist _
  | @common parts _ _ several hcommon _ ih =>
      have hne : parts.flatMap branches ≠ [] := List.ne_nil_of_length_pos (by omega)
      rw [numbers_concat, List.flatMap_append, List.flatMap_singleton,
        ← flatMap_numbers_opened parts]
      exact (List.Sublist.append (List.Sublist.refl _) ih).trans
        (numbers_common_sublist hne hcommon)

/-- Branches that are single characters or sets have no groups. -/
theorem numbers_of_mergedSet? {s : CharSet} (h : mergedSet? parts = some s) :
    parts.flatMap numbers = [] := by
  rw [List.flatMap_eq_nil_iff]
  rcases Option.or_eq_some_iff.1 h with hchars | ⟨_, hsets⟩
  · obtain ⟨chars, hparts, -⟩ := Option.map_eq_some_iff.1 hchars
    obtain rfl := eq_map_of_mapM (fun _ _ => eq_text_of_char?) hparts
    exact List.forall_mem_map.2 fun _ _ => rfl
  · obtain ⟨sets, hparts, -⟩ := Option.map_eq_some_iff.1 hsets
    obtain rfl := eq_map_of_mapM (fun _ _ => eq_set_of_set?) hparts
    exact List.forall_mem_map.2 fun _ _ => rfl

/-- What two branches begin with has no groups, if no number is used twice. -/
theorem numbers_common_eq_nil {common : List Expr} (hlength : 1 < parts.length)
    (h : ∀ e ∈ parts, common <+: e.factors) (hnodup : (parts.flatMap numbers).Nodup) :
    common.flatMap numbers = [] := by
  obtain ⟨first, second, rest, rfl⟩ : ∃ first second rest, parts = first :: second :: rest := by
    match parts, hlength with
    | first :: second :: rest, _ => exact ⟨first, second, rest, rfl⟩
  have subset : ∀ e ∈ first :: second :: rest, common.flatMap numbers ⊆ e.numbers := by
    intro e he
    rw [← flatMap_numbers_factors e]
    exact ((h e he).sublist.flatMap numbers).subset
  rw [List.flatMap_cons, List.flatMap_cons] at hnodup
  have disjoint := (List.nodup_append.1 hnodup).2.2
  refine List.eq_nil_iff_forall_not_mem.2 fun number hnumber => ?_
  exact disjoint number (subset first List.mem_cons_self hnumber) number
    (List.mem_append_left _ (subset second (by simp) hnumber)) rfl

/-- **A choice has the groups of its branches,** if no number is used twice. -/
theorem Chosen.numbers_eq (h : Chosen parts e) (hnodup : (parts.flatMap numbers).Nodup) :
    e.numbers = parts.flatMap numbers := by
  induction h with
  | firstOf parts => rw [numbers_firstOf, flatMap_numbers_opened]
  | @merged parts _ hs =>
      rw [numbers_ofSet, ← flatMap_numbers_opened parts, numbers_of_mergedSet? hs]
  | @common parts common rest several hcommon _ ih =>
      rw [← flatMap_numbers_opened parts] at hnodup ⊢
      -- What is taken out of all branches has no groups, so nothing is lost of the branches.
      have none := numbers_common_eq_nil several hcommon hnodup
      have dropped : ((parts.flatMap branches).map fun e =>
          concat (e.factors.drop common.length)).flatMap numbers =
          (parts.flatMap branches).flatMap numbers := by
        rw [List.flatMap_map]
        refine List.flatMap_congr fun e he => ?_
        rw [numbers_concat, ← flatMap_numbers_factors e]
        conv => rhs; rw [← List.prefix_iff_eq_append.1 (hcommon e he), List.flatMap_append, none]
        rfl
      rw [numbers_concat, List.flatMap_append, none, List.flatMap_singleton, List.nil_append,
        ih (dropped ▸ hnodup), dropped]

end Expr

/-! ### Written expressions -/

theorem numbers_char (flags : Flags) (c : Char) : (flags.char c).numbers = [] := by
  unfold Flags.char
  split
  · rfl
  · split
    · split
      · exact Expr.numbers_ofSet ..
      · rfl
    · split
      · exact Expr.numbers_ofSet ..
      · rfl

theorem numbers_dot {flags : Flags} {span : Span} {e : Expr} (h : flags.dot span = .ok e) :
    e.numbers = [] := by
  unfold Flags.dot at h
  split at h
  · cases h
  · split at h
    · cases h
      rfl
    · split at h <;> cases h <;> rfl

theorem GroupKind.numbers_wrap (kind : GroupKind) (e : Expr) (start : Position) :
    (kind.wrap e).numbers = (kind.marks start).map Prod.snd ++ e.numbers := by
  cases kind <;> rfl

mutual

/-- **The groups of a meaning are some of the written ones,** in the same order. -/
theorem Pattern.numbers_sublist {flags flags' : Flags} {e : Expr} : (p : Pattern) →
    p.meaning flags = .ok (e, flags') → e.numbers.Sublist (p.groupMarks.map Prod.snd)
  | .empty _, h | .flags .., h | .assertion .., h => by
      cases h
      exact List.Sublist.refl _
  | .literal _, h => by
      obtain ⟨e, he, h⟩ := bind_eq_ok.1 h
      cases h
      obtain ⟨_, -, he⟩ := bind_eq_ok.1 he
      cases he
      rw [numbers_char]
      exact List.nil_sublist _
  | .dot _, h => by
      obtain ⟨e, he, h⟩ := bind_eq_ok.1 h
      cases h
      rw [numbers_dot he]
      exact List.nil_sublist _
  | .short .., h | .property .., h => by
      obtain ⟨_, -, h⟩ := bind_eq_ok.1 h
      cases h
      rw [Expr.numbers_ofSet]
      exact List.nil_sublist _
  | .bracket .., h => by
      obtain ⟨_, -, h⟩ := bind_eq_ok.1 h
      obtain ⟨_, -, h⟩ := bind_eq_ok.1 h
      cases h
      rw [Expr.numbers_ofSet]
      exact List.nil_sublist _
  | .repetition _ min max greedy body, h => by
      obtain ⟨⟨e, inner⟩, he, h⟩ := bind_eq_ok.1 h
      cases h
      exact (Expr.numbers_repeated_sublist ..).trans (Pattern.numbers_sublist body he)
  | .group span kind body, h => by
      obtain ⟨⟨e, inner⟩, he, h⟩ := bind_eq_ok.1 h
      cases h
      rw [kind.numbers_wrap e span.start, Pattern.groupMarks, List.map_append]
      exact (List.Sublist.refl _).append (Pattern.numbers_sublist body he)
  | .choice _ branches, h => by
      obtain ⟨⟨es, inner⟩, hes, h⟩ := bind_eq_ok.1 h
      cases h
      exact (Expr.chosen_choice es).numbers_sublist.trans (Pattern.allNumbers_sublist branches hes)
  | .sequence _ items, h => by
      obtain ⟨⟨es, inner⟩, hes, h⟩ := bind_eq_ok.1 h
      cases h
      rw [Expr.numbers_concat]
      exact Pattern.allNumbers_sublist items hes

theorem Pattern.allNumbers_sublist {flags flags' : Flags} {es : List Expr} :
    (items : List Pattern) → Pattern.meanings flags items = .ok (es, flags') →
      (es.flatMap Expr.numbers).Sublist ((Pattern.allGroupMarks items).map Prod.snd)
  | [], h => by
      cases h
      exact List.Sublist.refl _
  | item :: rest, h => by
      obtain ⟨⟨e, inner⟩, he, h⟩ := bind_eq_ok.1 h
      obtain ⟨⟨es, last⟩, hes, h⟩ := bind_eq_ok.1 h
      cases h
      rw [List.flatMap_cons, Pattern.allGroupMarks, List.map_append]
      exact (Pattern.numbers_sublist item he).append (Pattern.allNumbers_sublist rest hes)

end

/-! ### Accepted expressions -/

variable {source : List Char} {regex : Regex} {p : Pattern} {e : Expr}

/-- A text has a meaning if what is read of it has one. -/
theorem Expr.read_eq_ok_iff : Expr.read source = .ok e ↔
    ∃ p flags, Pattern.read source = .ok p ∧ p.meaning {} = .ok (e, flags) := by
  constructor
  · intro h
    obtain ⟨p, hp, h⟩ := bind_eq_ok.1 h
    obtain ⟨⟨e, flags⟩, he, h⟩ := bind_eq_ok.1 h
    cases h
    exact ⟨p, flags, hp, he⟩
  · rintro ⟨p, flags, hp, he⟩
    exact bind_eq_ok.2 ⟨p, hp, bind_eq_ok.2 ⟨(e, flags), he, rfl⟩⟩

/-- A text that cannot be read has no meaning. -/
theorem Expr.read_of_error {complaint : Complaint} (h : Pattern.read source = .error complaint) :
    Expr.read source = .error complaint := by
  rw [Expr.read, h]
  rfl

/-- What is refused because it cannot be read, or has no meaning. -/
theorem compile_of_error {complaint : Complaint} (h : Expr.read source = .error complaint) :
    compile source = .error (.refused source complaint) := by
  rw [compile, h]

/-- A text with a meaning that is not too large is accepted, and nothing else is. -/
theorem compile_eq_ok_iff : compile source = .ok regex ↔ ∃ e, Expr.read source = .ok e ∧
    e.isTooLarge = false ∧ regex = { source, expr := e, program := e.program } := by
  unfold compile
  cases Expr.read source with
  | error complaint => exact ⟨nofun, nofun⟩
  | ok e =>
      dsimp only
      split
      next hlarge =>
        refine ⟨nofun, ?_⟩
        rintro ⟨_, ⟨⟩, hsmall, -⟩
        cases hlarge.symm.trans hsmall
      next hlarge =>
        constructor
        · intro h
          cases h
          exact ⟨e, rfl, by simpa using hlarge, rfl⟩
        · rintro ⟨_, ⟨⟩, -, rfl⟩
          rfl

/-- A text that is read and has a meaning is accepted, unless it becomes too large. -/
theorem compile_of_read {flags : Flags} (hp : Pattern.read source = .ok p)
    (he : p.meaning {} = .ok (e, flags)) : (∃ regex, compile source = .ok regex ∧ regex.expr = e) ∨
      (e.isTooLarge ∧ compile source = .error .tooLarge) := by
  rw [compile, Expr.read_eq_ok_iff.2 ⟨p, flags, hp, he⟩]
  dsimp only
  split
  next hlarge => exact .inr ⟨hlarge, rfl⟩
  · exact .inl ⟨_, rfl, rfl⟩

/-- **An accepted expression was read and has a meaning.** -/
theorem read_of_compile (h : compile source = .ok regex) : ∃ p flags,
    Pattern.read source = .ok p ∧ p.meaning {} = .ok (regex.expr, flags) := by
  obtain ⟨e, he, -, rfl⟩ := compile_eq_ok_iff.1 h
  exact Expr.read_eq_ok_iff.1 he

/-- What runs is the program of the meaning. -/
theorem program_of_compile (h : compile source = .ok regex) :
    regex.program = regex.expr.program := by
  obtain ⟨e, -, -, rfl⟩ := compile_eq_ok_iff.1 h
  rfl

theorem isTooLarge_of_compile (h : compile source = .ok regex) : regex.expr.isTooLarge = false := by
  obtain ⟨e, -, hlarge, rfl⟩ := compile_eq_ok_iff.1 h
  exact hlarge

/-- **An accepted expression has at most as many groups as are written.** -/
theorem groupCount_le (h : compile source = .ok regex) (hp : Pattern.read source = .ok p) :
    regex.groupCount ≤ p.groupMarks.length := by
  obtain ⟨q, flags, hq, he⟩ := read_of_compile h
  cases hp.symm.trans hq
  have := (Pattern.numbers_sublist p he).length_le
  rwa [Expr.length_numbers, List.length_map] at this

end ParamTemplate.Regex
