/-
**What the groups that are left match.**

What a group matched is what was remembered last under its two numbers.  If two expressions stand
for the same one, their preferred ways remember the same under the numbers that are kept, and so a
group that is left matches the same in both.

Main definition:

* `Regex.lastSaved` — what was remembered last under a number.

Main results:

* `Regex.Expr.keep_eq_of_counterparts` — **the preferred ways of counterparts remember the same**;
* `Regex.Expr.group?_eq_of_counterparts` — **a group that is left matches the same.**
-/

import Mathlib.Data.List.Induction
import ParamTemplate.Proofs.Regex.Capturing
import ParamTemplate.Proofs.Regex.Ungrouping

set_option autoImplicit false

namespace ParamTemplate.Regex

/-! ### What is remembered last -/

/-- **What was remembered last** under a number. -/
def lastSaved (saves : List Save) (slot : Nat) : Option Nat := saves.reverse.lookup slot

section

variable {saves : List Save} {slot slot' count : Nat}

theorem lastSaved_cons (save : Save) (saves : List Save) (slot : Nat) :
    lastSaved (save :: saves) slot =
      (lastSaved saves slot).or (if slot = save.1 then some save.2 else none) := by
  rw [lastSaved, List.reverse_cons, List.lookup_append, ← lastSaved]
  obtain ⟨slot', place⟩ := save
  by_cases h : slot = slot'
  · simp [h]
  · have other : (slot == slot') = false := beq_eq_false_iff_ne.2 h
    simp [List.lookup_cons, other, h]

theorem lastSaved_eq_none (h : ∀ save ∈ saves, save.1 ≠ slot) : lastSaved saves slot = none := by
  rw [lastSaved, List.lookup_eq_none_iff]
  intro save hsave
  simpa using (h save (List.mem_reverse.1 hsave)).symm

/-- **What is left under a number** is what was remembered last. -/
theorem join_remember (h : ∀ save ∈ saves, save.1 < count) :
    (remember (Array.replicate count none) saves)[slot]?.join = lastSaved saves slot := by
  induction saves using List.reverseRecOn with
  | nil =>
      rw [remember_nil, Array.getElem?_replicate]
      split <;> rfl
  | append_singleton saves save ih =>
      obtain ⟨hsaves, hsave⟩ := List.forall_mem_append.1 h
      have ih := ih hsaves
      obtain ⟨number, i⟩ := save
      rw [remember_append, lastSaved, List.reverse_append]
      change ((remember _ saves).setIfInBounds number (some i))[slot]?.join =
        ((number, i) :: saves.reverse).lookup slot
      by_cases hslot : slot = number
      · subst hslot
        have hlt : slot < (remember (Array.replicate count none) saves).size := by
          simpa using hsave
        rw [Array.getElem?_setIfInBounds_self_of_lt hlt, List.lookup_cons_self]
        rfl
      · have other : (slot == number) = false := by simpa using hslot
        rw [Array.getElem?_setIfInBounds_ne (Ne.symm hslot), ih, lastSaved, List.lookup_cons, other]

/-- **What was remembered last under a number that is kept** is what was remembered last under the
number it had. -/
theorem lastSaved_keep {kept : Nat → Option Nat} (hkept : KeepsApart kept)
    (hslot : kept slot = some slot') : lastSaved (keep kept saves) slot' = lastSaved saves slot := by
  unfold lastSaved
  rw [keep, ← List.filterMap_reverse]
  induction saves.reverse with
  | nil => rfl
  | cons save saves ih =>
      obtain ⟨number, i⟩ := save
      rw [List.filterMap_cons, List.lookup_cons]
      by_cases hnumber : slot = number
      · subst hnumber
        simp [hslot]
      · have apart : kept number ≠ some slot' := fun h => hnumber (hkept hslot h)
        have other : (slot == number) = false := by simpa using hnumber
        rw [other]
        cases hk : kept number with
        | none => exact ih
        | some number' =>
            have hne : (slot' == number') = false := by
              simpa using fun heq : slot' = number' => apart (heq ▸ hk)
            rw [Option.map_some]
            dsimp only
            rw [List.lookup_cons, hne]
            exact ih

end

theorem keepsApart_slots {kept : Nat → Option Nat} (h : KeepsApart kept) :
    KeepsApart (slots kept) := by
  intro i j k hi hj
  obtain ⟨m, hm, rfl⟩ := Option.map_eq_some_iff.1 hi
  obtain ⟨n, hn, heq⟩ := Option.map_eq_some_iff.1 hj
  obtain rfl : n = m := by omega
  have half := h hm hn
  omega

/-! ### The numbers under which is remembered -/

theorem Step.save_mem {code : List Instr} {text : List Char} {a b : Spot} {saves : List Save}
    (h : Step code text a saves b) : ∀ save ∈ saves, Instr.save save.1 ∈ code := by
  intro save hsave
  cases h with
  | save i hcode =>
      rw [List.mem_singleton.1 hsave]
      exact List.mem_of_getElem? hcode
  | read | look | first | second | jump => cases hsave

/-- What is remembered on a way is remembered by instructions. -/
theorem Trace.save_mem {code : List Instr} {text : List Char} {a b : Spot} {spots : List Spot}
    {choices : List Bool} {saves : List Save} (h : Trace code text a spots choices saves b) :
    ∀ save ∈ saves, Instr.save save.1 ∈ code := by
  induction h with
  | nil => exact List.forall_mem_nil _
  | cons turn _ ih => exact List.forall_mem_append.2 ⟨turn.step.save_mem, ih⟩

namespace Expr

variable {e e' n : Expr} {text : List Char} {saves saves' : List Save}
  {kept : Nat → Option Nat}

/-- The instructions of an expression remember under the numbers of its groups. -/
theorem half_mem_numbers {slot : Nat} (start : Nat) (h : Instr.save slot ∈ e.code start) :
    slot / 2 ∈ e.numbers := by
  induction e generalizing start with
  | empty | text | set | look => simp [code] at h
  | group index body ih =>
      simp only [code, List.cons_append, List.mem_cons, List.mem_append,
        Instr.save.injEq, List.not_mem_nil, or_false] at h
      rw [numbers, List.mem_cons]
      rcases h with rfl | h | rfl
      · exact .inl (by omega)
      · exact .inr (ih _ h)
      · exact .inl (by omega)
  | repetition min max greedy body ih =>
      rw [numbers]
      unfold code repetitionCode repeatFork at h
      split at h <;> simp [copies] at h <;> grind
  | cat left right ihl ihr =>
      rw [numbers, List.mem_append]
      exact (List.mem_append.1 h).imp (ihl _) (ihr _)
  | alt left right ihl ihr =>
      rw [numbers, List.mem_append]
      simp [code] at h
      exact h.imp (ihl _) (ihr _)

/-! ### Preferred ways -/

theorem leading_code_iff {i j : Nat} {choices : List Bool} :
    Leading (e.code 0) text i (· = j) choices saves ↔ e.Way text i choices saves j := by
  constructor
  · rintro ⟨p, ⟨htrace, hnodup⟩, rfl, rfl, rfl, rfl⟩
    rw [length_code] at htrace
    exact ⟨p.spots, htrace, hnodup⟩
  · rintro ⟨spots, htrace, hnodup⟩
    rw [← length_code e 0] at htrace
    exact ⟨⟨i, spots, choices, saves, j⟩, ⟨htrace, hnodup⟩, rfl, rfl, rfl, rfl⟩

/-- **The preferred ways of counterparts remember the same** under the numbers that are kept. -/
theorem keep_eq_of_counterparts (h : Counterparts kept e e') {i j : Nat}
    (hsaves : Preferred (fun choices saves => e.Way text i choices saves j) saves)
    (hsaves' : Preferred (fun choices saves => e'.Way text i choices saves j) saves') :
    saves' = keep (slots kept) saves := by
  obtain ⟨n, hn, hn'⟩ := h
  have first := hn.becomes.preferred
    ((Preferred.congr fun _ _ => leading_code_iff (e := e)).2 hsaves)
  have second := hn'.becomes.preferred
    ((Preferred.congr fun _ _ => leading_code_iff (e := e')).2 hsaves')
  rw [slots_some, keep_some] at second
  exact second.unique first

/-- **The preferred way through a program** is the one through its expression. -/
theorem exists_preferred_of_program {i j : Nat}
    (h : Preferred (fun choices saves => e.program.Way text i choices saves j) saves) :
    ∃ inner, Preferred (fun choices inner => e.Way text i choices inner j) inner ∧
      saves = (0, i) :: inner ++ [(1, j)] := by
  obtain ⟨choices, hway, hbest⟩ := h
  obtain ⟨inner, hinner, rfl⟩ := way_program_iff.1 hway
  refine ⟨inner, ⟨choices, hinner, fun others inner' hinner' => ?_⟩, rfl⟩
  rcases hbest others _ (way_program_iff.2 ⟨inner', hinner', rfl⟩) with ⟨hchoices, hsaves⟩ | hlater
  · exact .inl ⟨hchoices, by simpa using hsaves⟩
  · exact .inr hlater

/-- **What a group matched** is between the places that were remembered last of it. -/
theorem group?_of_search_tied {slots : Slots} {index : Nat} (hindex : 0 < index)
    (h : e.tied.program.search text = some slots) :
    ∃ inner, Preferred (fun choices inner => e.Way text 0 choices inner text.length) inner ∧
      ({ text, slots } : Captures).group? index =
        match lastSaved inner (2 * index), lastSaved inner (2 * index + 1) with
        | some start, some stop => some ((text.take stop).drop start)
        | _, _ => none := by
  obtain ⟨saves, hsaves, rfl⟩ := search_tied_eq_some_iff.1 h
  obtain ⟨inner, hinner, rfl⟩ := exists_preferred_of_program hsaves
  refine ⟨inner, hinner, ?_⟩
  have bound : ∀ save ∈ (0, 0) :: inner ++ [(1, text.length)], save.1 < e.program.slotCount := by
    have hprogram : e.program.slotCount = 2 * (e.maxGroup + 1) := rfl
    have inside : ∀ save ∈ inner, save.1 < e.program.slotCount := by
      obtain ⟨choices, ⟨spots, htrace, -⟩, -⟩ := hinner
      intro save hsave
      have := le_maxGroup (half_mem_numbers 0 (htrace.save_mem save hsave))
      omega
    intro save hsave
    rcases List.mem_append.1 hsave with hsave | hsave
    · rcases List.mem_cons.1 hsave with rfl | hsave
      · omega
      · exact inside save hsave
    · rw [List.mem_singleton.1 hsave, hprogram]
      omega
  -- Neither end of the whole match is remembered under the numbers of another group.
  have last : ∀ slot, 1 < slot →
      (remember e.program.blank ((0, 0) :: inner ++ [(1, text.length)]))[slot]?.join =
        lastSaved inner slot := by
    intro slot hslot
    have first : (slot == 0) = false := by simpa using (by omega : slot ≠ 0)
    have second : (slot == 1) = false := by simpa using (by omega : slot ≠ 1)
    have reversed : ((0, 0) :: inner ++ [(1, text.length)]).reverse =
        (1, text.length) :: (inner.reverse ++ [(0, 0)]) := by simp
    rw [Program.blank, join_remember bound, lastSaved, lastSaved, reversed, List.lookup_cons,
      second, List.lookup_append, List.lookup_cons, first, List.lookup_nil, Option.or_none]
  have start := last (2 * index) (by omega)
  have stop := last (2 * index + 1) (by omega)
  cases hstart : lastSaved inner (2 * index) <;> cases hstop : lastSaved inner (2 * index + 1) <;>
    simp only [Captures.group?, start, stop, hstart, hstop]

/-- **A group that is left matches the same.** -/
theorem group?_eq_of_counterparts (h : Counterparts kept e e') (hkept : KeepsApart kept)
    {captures captures' : Slots} (hsearch : e.tied.program.search text = some captures)
    (hsearch' : e'.tied.program.search text = some captures') {index index' : Nat}
    (hindex : kept index = some index') (hpos : 0 < index) (hpos' : 0 < index') :
    ({ text, slots := captures } : Captures).group? index =
      ({ text, slots := captures' } : Captures).group? index' := by
  obtain ⟨inner, hinner, hgroup⟩ := group?_of_search_tied hpos hsearch
  obtain ⟨inner', hinner', hgroup'⟩ := group?_of_search_tied hpos' hsearch'
  obtain rfl := keep_eq_of_counterparts h hinner hinner'
  have apart := keepsApart_slots hkept
  have start : slots kept (2 * index) = some (2 * index') := by rw [slots_start, hindex]; rfl
  have stop : slots kept (2 * index + 1) = some (2 * index' + 1) := by
    rw [slots_stop, hindex]
    rfl
  rw [hgroup, hgroup', lastSaved_keep apart start, lastSaved_keep apart stop]

end Expr

end ParamTemplate.Regex
