/-
**Expressions with fewer groups at work.**

An expression with fewer groups matches the same parts of a text.  What the groups that are left
match is the same, too, if it is tried in the same order.  To see this, both expressions are compared
to a third one that has neither the lost groups nor anything taken out of its choices: both stand for
that one.

Main definitions:

* `Regex.slots` — the places that are remembered, by the numbers of the groups;
* `Regex.Expr.StandsFor` — an expression can stand for another, and is known to be as long;
* `Regex.Expr.Counterparts` — two expressions stand for the same one;
* `Regex.Expr.isFair` — what a choice must be like to stand for its branches.

Main results:

* `Regex.Expr.parallel_matches` — **an expression with fewer groups matches the same**;
* `Regex.Expr.parallel_counterparts` — **and so do its groups, if the choices that lose a group are
  fair.**
-/

import ParamTemplate.Proofs.Regex.Choosing
import ParamTemplate.Proofs.Regex.Measuring
import ParamTemplate.Proofs.Regex.Uncounting

set_option autoImplicit false

namespace ParamTemplate.Regex

/-- **The places that are remembered,** two for each group. -/
def slots (kept : Nat → Option Nat) (slot : Nat) : Option Nat :=
  (kept (slot / 2)).map fun index => 2 * index + slot % 2

theorem slots_start (kept : Nat → Option Nat) (index : Nat) :
    slots kept (2 * index) = (kept index).map (2 * ·) := by
  simp [slots]

theorem slots_stop (kept : Nat → Option Nat) (index : Nat) :
    slots kept (2 * index + 1) = (kept index).map (2 * · + 1) := by
  have half : (2 * index + 1) / 2 = index := by omega
  simp [slots, half]

@[simp] theorem slots_some : slots some = some := by
  funext slot
  simp [slots, Nat.div_add_mod]

namespace Expr

variable {e e' n : Expr} {es es' ns : List Expr} {kept : Nat → Option Nat}

/-! ### Matches -/

/-- **Whether two expressions match the same,** and are known to. -/
structure MatchAlike (e e' : Expr) : Prop where
  matches_iff (text : List Char) (i j : Nat) : e.Matches text i j ↔ e'.Matches text i j
  isZeroWidth : e.isZeroWidth = e'.isZeroWidth

namespace MatchAlike

theorem refl (e : Expr) : MatchAlike e e := ⟨fun _ _ _ => Iff.rfl, rfl⟩

theorem symm (h : MatchAlike e e') : MatchAlike e' e :=
  ⟨fun text i j => (h.matches_iff text i j).symm, h.isZeroWidth.symm⟩

theorem trans {e'' : Expr} (h : MatchAlike e e') (h' : MatchAlike e' e'') : MatchAlike e e'' :=
  ⟨fun text i j => (h.matches_iff text i j).trans (h'.matches_iff text i j),
    h.isZeroWidth.trans h'.isZeroWidth⟩

theorem cat {a a' b b' : Expr} (ha : MatchAlike a a') (hb : MatchAlike b b') :
    MatchAlike (.cat a b) (.cat a' b') := by
  refine ⟨fun text i j => ?_, ?_⟩
  · simp only [matches_cat, ha.matches_iff, hb.matches_iff]
  · rw [Expr.isZeroWidth, Expr.isZeroWidth, ha.isZeroWidth, hb.isZeroWidth]

theorem alt {a a' b b' : Expr} (ha : MatchAlike a a') (hb : MatchAlike b b') :
    MatchAlike (.alt a b) (.alt a' b') := by
  refine ⟨fun text i j => ?_, ?_⟩
  · simp only [matches_alt, ha.matches_iff, hb.matches_iff]
  · rw [Expr.isZeroWidth, Expr.isZeroWidth, ha.isZeroWidth, hb.isZeroWidth]

theorem group (index : Nat) (e : Expr) : MatchAlike (.group index e) e :=
  ⟨fun _ _ _ => matches_group, rfl⟩

theorem repetition (h : MatchAlike e e') (min : Nat) (max : Option Nat) (greedy : Bool) :
    MatchAlike (.repetition min max greedy e) (.repetition min max greedy e') := by
  refine ⟨fun text i j => ?_, ?_⟩
  · rw [matches_repetition, matches_repetition]
    constructor
    · rintro ⟨n, hmin, hmax, hrounds⟩
      exact ⟨n, hmin, hmax, exists_rounds_congr (fun _ _ => (h.matches_iff ..).1) hrounds⟩
    · rintro ⟨n, hmin, hmax, hrounds⟩
      exact ⟨n, hmin, hmax, exists_rounds_congr (fun _ _ => (h.matches_iff ..).2) hrounds⟩
  · rw [Expr.isZeroWidth, Expr.isZeroWidth, h.isZeroWidth]

theorem concat (es : List Expr) : MatchAlike (Expr.concat es) (chain es) := by
  refine ⟨fun text i j => exists_congr fun saves => ?_, (isZeroWidth_allows.concat es).symm⟩
  rw [run_concat, run_chain]

theorem choice (es : List Expr) : MatchAlike (Expr.choice es) (firstOf es) := by
  refine ⟨fun text i j => exists_congr fun saves => ?_, isZeroWidth_choice es⟩
  rw [run_choice, run_firstOf]

end MatchAlike

/-- **An expression with fewer groups matches the same.** -/
theorem parallel_matches (kept : Nat → Option Nat) :
    Parallel kept (fun _ => true) MatchAlike where
  renumber _ := ⟨fun _ _ _ => matches_renumber.symm, (isZeroWidth_renumber _).symm⟩
  repeated _ _ greedy h := repeated_congr h.isZeroWidth (.refl _) h (h.repetition · · greedy)
  group _ h := ((MatchAlike.group _ _).trans h).trans (MatchAlike.group _ _).symm
  lost _ h := (MatchAlike.group _ _).trans h
  concat h := ((MatchAlike.concat _).trans (chain_congr (.refl _) .cat h)).trans
    (MatchAlike.concat _).symm
  choice _ _ h := ((MatchAlike.choice _).trans (firstOf_congr (.refl _) .alt h)).trans
    (MatchAlike.choice _).symm

/-! ### One expression for another -/

/-- **Whether an expression can stand for another,** under other numbers or none, and is known to be
as long. -/
structure StandsFor (kept : Nat → Option Nat) (n e : Expr) : Prop where
  becomes : Becomes (slots kept) n e
  isZeroWidth : n.isZeroWidth = e.isZeroWidth
  shortest : n.shortest = e.shortest
  isSized : n.isSized = e.isSized

namespace StandsFor

theorem consumes (h : StandsFor kept n e) : n.consumes = e.consumes := by
  rw [consumes_eq, consumes_eq, h.shortest, h.isSized]

theorem empty : StandsFor kept .empty .empty := ⟨.empty, rfl, rfl, rfl⟩

theorem set (ascii : Bool) (s : CharSet) : StandsFor kept (.set ascii s) (.set ascii s) :=
  ⟨.set ascii s, rfl, rfl, rfl⟩

theorem cat {a a' b b' : Expr} (ha : StandsFor kept a a') (hb : StandsFor kept b b') :
    StandsFor kept (.cat a b) (.cat a' b') where
  becomes := ha.becomes.cat hb.becomes
  isZeroWidth := by rw [Expr.isZeroWidth, Expr.isZeroWidth, ha.isZeroWidth, hb.isZeroWidth]
  shortest := by rw [Expr.shortest, Expr.shortest, ha.shortest, hb.shortest]
  isSized := by rw [isSized_cat, isSized_cat, ha.isSized, hb.isSized]

theorem alt {a a' b b' : Expr} (ha : StandsFor kept a a') (hb : StandsFor kept b b') :
    StandsFor kept (.alt a b) (.alt a' b') where
  becomes := ha.becomes.alt hb.becomes
  isZeroWidth := by rw [Expr.isZeroWidth, Expr.isZeroWidth, ha.isZeroWidth, hb.isZeroWidth]
  shortest := by rw [Expr.shortest, Expr.shortest, ha.shortest, hb.shortest]
  isSized := by rw [isSized_alt, isSized_alt, ha.isSized, hb.isSized]

theorem repetition (h : StandsFor kept n e) (min : Nat) (max : Option Nat) (greedy : Bool) :
    StandsFor kept (.repetition min max greedy n) (.repetition min max greedy e) where
  becomes := h.becomes.repetition h.consumes min max greedy
  isZeroWidth := by rw [Expr.isZeroWidth, Expr.isZeroWidth, h.isZeroWidth]
  shortest := by rw [Expr.shortest, Expr.shortest, h.shortest]
  isSized := by rw [isSized_repetition, isSized_repetition, h.isSized]

theorem group {index index' : Nat} (hindex : kept index = some index') (h : StandsFor kept n e) :
    StandsFor kept (.group index' n) (.group index e) where
  becomes := h.becomes.group (by rw [slots_start, hindex]; rfl) (by rw [slots_stop, hindex]; rfl)
  isZeroWidth := h.isZeroWidth
  shortest := h.shortest
  isSized := h.isSized

theorem group_lost {index : Nat} (hindex : kept index = none) (h : StandsFor kept n e) :
    StandsFor kept n (.group index e) where
  becomes := h.becomes.group_lost (by rw [slots_start, hindex]; rfl)
    (by rw [slots_stop, hindex]; rfl)
  isZeroWidth := h.isZeroWidth
  shortest := h.shortest
  isSized := h.isSized

theorem repeated (h : StandsFor kept n e) (min : Nat) (max : Option Nat) (greedy : Bool) :
    StandsFor kept (Expr.repeated min max greedy n) (Expr.repeated min max greedy e) :=
  repeated_congr h.isZeroWidth .empty h (h.repetition · · greedy)

theorem concat (h : List.Forall₂ (StandsFor kept) ns es) :
    StandsFor kept (Expr.concat ns) (Expr.concat es) := by
  have held := chain_congr empty cat h
  refine ⟨?_, ?_, ?_, ?_⟩
  · have code : ∀ es : List Expr, (chain es).code 0 = (Expr.concat es).code 0 := by
      intro es
      rw [code_chain, code_concat]
    rw [Becomes, ← code, ← code]
    exact held.becomes
  · rw [← isZeroWidth_allows.concat ns, held.isZeroWidth, isZeroWidth_allows.concat es]
  · rw [← shortest_allows.concat ns, held.shortest, shortest_allows.concat es]
  · rw [isSized_eq, flat_concat, ← flat_chain, ← isSized_eq, held.isSized, isSized_eq, flat_chain,
      ← flat_concat, ← isSized_eq]

/-- Where all groups keep a number, an expression stands for itself with the other numbers. -/
theorem renumber {number : Nat → Nat} (h : ∀ index ∈ e.numbers, kept index = some (number index)) :
    StandsFor kept (e.renumber number) e := by
  induction e with
  | empty => exact .empty
  | text chars => exact ⟨.text chars, rfl, rfl, rfl⟩
  | set ascii s => exact .set ascii s
  | look k => exact ⟨.look k, rfl, rfl, rfl⟩
  | group index body ih =>
      obtain ⟨hindex, hbody⟩ := List.forall_mem_cons.1 h
      exact .group hindex (ih hbody)
  | repetition min max greedy body ih => exact (ih h).repetition min max greedy
  | cat left right ihl ihr =>
      obtain ⟨hleft, hright⟩ := List.forall_mem_append.1 h
      exact (ihl hleft).cat (ihr hright)
  | alt left right ihl ihr =>
      obtain ⟨hleft, hright⟩ := List.forall_mem_append.1 h
      exact (ihl hleft).alt (ihr hright)

end StandsFor

/-! ### Fair choices -/

/-- **What a choice must be like to stand for its branches:** nothing is chosen in what is taken out
of it, and no set without characters is seen in it. -/
def isFair (es : List Expr) : Bool := es.all isSized && (takenOut es).all isStraight

theorem isSized_firstOf (h : ∀ e ∈ es, e.isSized) (hne : es ≠ []) : (firstOf es).isSized := by
  induction es with
  | nil => exact absurd rfl hne
  | cons e es ih =>
      obtain ⟨he, hes⟩ := List.forall_mem_cons.1 h
      by_cases hlast : es = []
      · subst hlast
        exact he
      · rw [firstOf_cons e hlast, isSized_alt, he, ih hes hlast]
        rfl

/-- **A fair choice stands for its branches.** -/
theorem StandsFor.choice (h : List.Forall₂ (StandsFor kept) ns es) (hfair : isFair es) :
    StandsFor kept (firstOf ns) (Expr.choice es) := by
  obtain ⟨hsized, hstraight⟩ := Bool.and_eq_true_iff.1 hfair
  rw [List.all_eq_true] at hsized hstraight
  have held := firstOf_congr (.set ..) .alt h
  refine ⟨held.becomes.trans_some (becomes_choice hstraight), ?_, ?_, ?_⟩
  · rw [held.isZeroWidth, isZeroWidth_choice]
  · rw [held.shortest, shortest_choice]
  · by_cases hne : es = []
    · subst hne
      simpa [Expr.choice, choiceWithin] using held.isSized
    · have sized := isSized_firstOf hsized hne
      rw [held.isSized, sized, isSized_choice sized]

/-! ### Counterparts -/

/-- **Whether two expressions stand for the same one,** which has the groups of the second one. -/
def Counterparts (kept : Nat → Option Nat) (e e' : Expr) : Prop :=
  ∃ n, StandsFor kept n e ∧ StandsFor some n e'

theorem forall₂_counterparts (h : List.Forall₂ (Counterparts kept) es es') :
    ∃ ns, List.Forall₂ (StandsFor kept) ns es ∧ List.Forall₂ (StandsFor some) ns es' := by
  induction h with
  | nil => exact ⟨[], .nil, .nil⟩
  | cons hhead _ ih =>
      obtain ⟨n, hn, hn'⟩ := hhead
      obtain ⟨ns, hns, hns'⟩ := ih
      exact ⟨n :: ns, .cons hn hns, .cons hn' hns'⟩

/-- **An expression with fewer groups stands for the same,** if the choices that lose a group are
fair. -/
theorem parallel_counterparts (kept : Nat → Option Nat) :
    Parallel kept isFair (Counterparts kept) where
  renumber {e number} h := by
    have same : StandsFor some ((e.renumber number).renumber id) (e.renumber number) :=
      .renumber fun _ _ => rfl
    rw [renumber_id] at same
    exact ⟨_, .renumber h, same⟩
  repeated min max greedy := by
    rintro ⟨n, hn, hn'⟩
    exact ⟨_, hn.repeated min max greedy, hn'.repeated min max greedy⟩
  group hindex := by
    rintro ⟨n, hn, hn'⟩
    exact ⟨_, hn.group hindex, hn'.group rfl⟩
  lost hindex := by
    rintro ⟨n, hn, hn'⟩
    exact ⟨n, hn.group_lost hindex, hn'⟩
  concat h := by
    obtain ⟨ns, hns, hns'⟩ := forall₂_counterparts h
    exact ⟨_, .concat hns, .concat hns'⟩
  choice hfair hfair' h := by
    obtain ⟨ns, hns, hns'⟩ := forall₂_counterparts h
    exact ⟨_, .choice hns hfair, .choice hns' hfair'⟩

end Expr

end ParamTemplate.Regex
