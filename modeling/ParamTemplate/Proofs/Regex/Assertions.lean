/-
**Expressions without assertions.**

What is written without assertions means an expression without assertions: the functions that build
expressions take their parts apart and put them together in other ways, but they make no assertions
of their own.

Main definition:

* `Regex.Pattern.isLookFree` — whether no assertion is written anywhere in an expression.

Main result:

* `Regex.Pattern.isLookFree_of_meaning` — **what is written without assertions has none in its
  meaning.**
-/

import ParamTemplate.Proofs.Regex.Relabelling
import ParamTemplate.Proofs.Regex.Simplifying

set_option autoImplicit false

namespace ParamTemplate.Regex

/-! ### Building expressions -/

namespace Expr

variable {e : Expr} {es parts : List Expr}

theorem isLookFree_of_mem_factors (h : e.isLookFree) : ∀ e' ∈ e.factors, e'.isLookFree := by
  induction e with
  | empty => exact fun _ h => by cases h
  | cat left right _ ih =>
      obtain ⟨hleft, hright⟩ := Bool.and_eq_true_iff.1 h
      exact List.forall_mem_cons.2 ⟨hleft, ih hright⟩
  | text | set | look | group | repetition | alt =>
      exact List.forall_mem_singleton.2 h

theorem isLookFree_of_mem_branches (h : e.isLookFree) : ∀ e' ∈ e.branches, e'.isLookFree := by
  induction e with
  | alt left right _ ih =>
      obtain ⟨hleft, hright⟩ := Bool.and_eq_true_iff.1 h
      exact List.forall_mem_cons.2 ⟨hleft, ih hright⟩
  | empty | text | set | look | group | repetition | cat =>
      exact List.forall_mem_singleton.2 h

theorem isLookFree_chain (h : ∀ e ∈ es, e.isLookFree) : (chain es).isLookFree :=
  chain_congr (R := fun e _ => e.isLookFree) rfl
    (fun hleft hright => Bool.and_eq_true_iff.2 ⟨hleft, hright⟩) (List.forall₂_same.2 h)

theorem isLookFree_firstOf (h : ∀ e ∈ es, e.isLookFree) : (firstOf es).isLookFree :=
  firstOf_congr (R := fun e _ => e.isLookFree) rfl
    (fun hleft hright => Bool.and_eq_true_iff.2 ⟨hleft, hright⟩) (List.forall₂_same.2 h)

theorem isLookFree_consFactor (he : e.isLookFree) (hes : ∀ e ∈ es, e.isLookFree) :
    ∀ e' ∈ consFactor e es, e'.isLookFree := by
  unfold consFactor
  split
  · exact List.forall_mem_cons.2 ⟨rfl, (List.forall_mem_cons.1 hes).2⟩
  · exact List.forall_mem_cons.2 ⟨he, hes⟩

theorem isLookFree_concat (h : ∀ e ∈ parts, e.isLookFree) : (concat parts).isLookFree := by
  refine isLookFree_chain ?_
  have flat : ∀ e ∈ parts.flatMap factors, e.isLookFree := by
    intro e he
    obtain ⟨part, hpart, he⟩ := List.mem_flatMap.1 he
    exact isLookFree_of_mem_factors (h part hpart) e he
  revert flat
  generalize parts.flatMap factors = es
  intro flat
  induction es with
  | nil => exact fun _ h => by cases h
  | cons e es ih =>
      obtain ⟨he, hes⟩ := List.forall_mem_cons.1 flat
      exact isLookFree_consFactor he (ih hes)

theorem isLookFree_ofSet (ascii : Bool) (s : CharSet) : (ofSet ascii s).isLookFree := by
  unfold ofSet
  split <;> rfl

theorem isLookFree_opened (h : ∀ e ∈ parts, e.isLookFree) :
    ∀ e ∈ parts.flatMap branches, e.isLookFree := by
  intro e he
  obtain ⟨part, hpart, he⟩ := List.mem_flatMap.1 he
  exact isLookFree_of_mem_branches (h part hpart) e he

theorem Chosen.isLookFree (hchosen : Chosen parts e) (h : ∀ e ∈ parts, e.isLookFree) :
    e.isLookFree := by
  induction hchosen with
  | firstOf => exact isLookFree_firstOf (isLookFree_opened h)
  | merged => exact isLookFree_ofSet ..
  | @common parts common rest several hcommon _ ih =>
      refine isLookFree_concat (List.forall_mem_append.2 ⟨fun e he => ?_,
        List.forall_mem_singleton.2 (ih fun e he => ?_)⟩)
      · obtain ⟨part, hpart⟩ : ∃ part, part ∈ parts.flatMap branches :=
          List.exists_mem_of_length_pos (by omega)
        exact isLookFree_of_mem_factors (isLookFree_opened h part hpart) e
          ((hcommon part hpart).subset he)
      · obtain ⟨part, hpart, rfl⟩ := List.mem_map.1 he
        exact isLookFree_concat fun e he =>
          isLookFree_of_mem_factors (isLookFree_opened h part hpart) e (List.mem_of_mem_drop he)

theorem isLookFree_choice (h : ∀ e ∈ parts, e.isLookFree) : (choice parts).isLookFree :=
  (chosen_choice parts).isLookFree h

theorem isLookFree_repeated (min : Nat) (max : Option Nat) (greedy : Bool) (h : e.isLookFree) :
    (repeated min max greedy e).isLookFree := by
  rcases repeated_cases min max greedy e with heq | heq | ⟨min', max', heq⟩
  · rw [heq]
    rfl
  · rwa [heq]
  · rw [heq]
    exact h

end Expr

theorem isLookFree_char (flags : Flags) (c : Char) : (flags.char c).isLookFree := by
  unfold Flags.char
  split
  · rfl
  · split
    · split
      · exact Expr.isLookFree_ofSet ..
      · rfl
    · split
      · exact Expr.isLookFree_ofSet ..
      · rfl

theorem isLookFree_dot {flags : Flags} {span : Span} {e : Expr} (h : flags.dot span = .ok e) :
    e.isLookFree := by
  unfold Flags.dot at h
  split at h
  · cases h
  · split at h
    · cases h
      rfl
    · split at h <;> cases h <;> rfl

/-! ### Written expressions -/

mutual

/-- **Whether no assertion is written anywhere in an expression.** -/
def Pattern.isLookFree : Pattern → Bool
  | .assertion .. => false
  | .repetition _ _ _ _ body | .group _ _ body => body.isLookFree
  | .choice _ branches => Pattern.areLookFree branches
  | .sequence _ items => Pattern.areLookFree items
  | _ => true

/-- Whether no assertion is written anywhere in a list of expressions. -/
def Pattern.areLookFree : List Pattern → Bool
  | [] => true
  | item :: rest => item.isLookFree && Pattern.areLookFree rest

end

theorem isLookFree_wrap {e : Expr} (kind : GroupKind) (h : e.isLookFree) :
    (kind.wrap e).isLookFree := by
  cases kind <;> exact h

mutual

/-- **What is written without assertions has none in its meaning.** -/
theorem Pattern.isLookFree_of_meaning {flags flags' : Flags} {e : Expr} : (p : Pattern) →
    p.isLookFree → p.meaning flags = .ok (e, flags') → e.isLookFree
  | .empty _, _, h | .flags .., _, h => by
      cases h
      rfl
  | .assertion .., free, _ => by cases free
  | .literal _, _, h => by
      obtain ⟨e, he, h⟩ := bind_eq_ok.1 h
      cases h
      obtain ⟨_, -, he⟩ := bind_eq_ok.1 he
      cases he
      exact isLookFree_char ..
  | .dot _, _, h => by
      obtain ⟨e, he, h⟩ := bind_eq_ok.1 h
      cases h
      exact isLookFree_dot he
  | .short .., _, h | .property .., _, h => by
      obtain ⟨_, -, h⟩ := bind_eq_ok.1 h
      cases h
      exact Expr.isLookFree_ofSet ..
  | .bracket .., _, h => by
      obtain ⟨_, -, h⟩ := bind_eq_ok.1 h
      obtain ⟨_, -, h⟩ := bind_eq_ok.1 h
      cases h
      exact Expr.isLookFree_ofSet ..
  | .repetition _ min max greedy body, free, h => by
      obtain ⟨⟨e, inner⟩, he, h⟩ := bind_eq_ok.1 h
      cases h
      exact Expr.isLookFree_repeated _ _ _ (Pattern.isLookFree_of_meaning body free he)
  | .group _ kind body, free, h => by
      obtain ⟨⟨e, inner⟩, he, h⟩ := bind_eq_ok.1 h
      cases h
      exact isLookFree_wrap kind (Pattern.isLookFree_of_meaning body free he)
  | .choice _ branches, free, h => by
      obtain ⟨⟨es, inner⟩, hes, h⟩ := bind_eq_ok.1 h
      cases h
      exact Expr.isLookFree_choice (Pattern.isLookFree_of_meanings branches free hes)
  | .sequence _ items, free, h => by
      obtain ⟨⟨es, inner⟩, hes, h⟩ := bind_eq_ok.1 h
      cases h
      exact Expr.isLookFree_concat (Pattern.isLookFree_of_meanings items free hes)

theorem Pattern.isLookFree_of_meanings {flags flags' : Flags} {es : List Expr} :
    (items : List Pattern) → Pattern.areLookFree items →
      Pattern.meanings flags items = .ok (es, flags') → ∀ e ∈ es, e.isLookFree
  | [], _, h => by
      cases h
      exact fun _ h => by cases h
  | item :: rest, free, h => by
      obtain ⟨hitem, hrest⟩ := Bool.and_eq_true_iff.1 free
      obtain ⟨⟨e, inner⟩, he, h⟩ := bind_eq_ok.1 h
      obtain ⟨⟨es, last⟩, hes, h⟩ := bind_eq_ok.1 h
      cases h
      exact List.forall_mem_cons.2 ⟨Pattern.isLookFree_of_meaning item hitem he,
        Pattern.isLookFree_of_meanings rest hrest hes⟩

end

end ParamTemplate.Regex
