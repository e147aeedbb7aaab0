/-
**What an expression with fewer groups means.**

An expression is built from its parts, with and without the groups that lose their numbers.  What
holds of both builds step by step holds of the results.  Only a choice is built in two ways: what its
branches begin with is taken out of it if it is the same in all of them, and a group with a number
is never the same in two of them.  So without the number more may be taken out.

Main definitions:

* `Regex.Pattern.agrees` — whether the choices of an expression that lose a group are fair, with the
  groups and without them;
* `Regex.Expr.Parallel` — a relation that the steps of both builds keep.

Main result:

* `Regex.Pattern.exists_meaning_of_uncounts` — **an expression with fewer groups has a meaning, and
  the relation holds of both meanings.**
-/

import ParamTemplate.Proofs.Regex.Groups
import ParamTemplate.Proofs.Regex.Stripping

set_option autoImplicit false

namespace ParamTemplate.Regex

/-! ### Numbers -/

/-- **Whether different groups keep different numbers.** -/
def KeepsApart (kept : Nat → Option Nat) : Prop :=
  ∀ ⦃i j k : Nat⦄, kept i = some k → kept j = some k → i = j

/-- Numbers that are kept apart are numbers under an injective function, as far as only some of them
are looked at. -/
theorem KeepsApart.exists_injective {kept : Nat → Option Nat} (h : KeepsApart kept)
    (numbers : List Nat) (hkept : ∀ i ∈ numbers, (kept i).isSome) :
    ∃ f, Function.Injective f ∧ ∀ i ∈ numbers, kept i = some (f i) := by
  -- What is not looked at goes behind all the new numbers.
  let bound := ((numbers.filterMap kept).foldr Nat.max 0) + 1
  have lt_bound : ∀ i ∈ numbers, ∀ k, kept i = some k → k < bound := by
    intro i hi k hk
    have hmem : k ∈ numbers.filterMap kept := List.mem_filterMap.2 ⟨i, hi, hk⟩
    have le_max : ∀ ks : List Nat, k ∈ ks → k ≤ ks.foldr Nat.max 0 := by
      intro ks hks
      induction ks with
      | nil => cases hks
      | cons x ks ih =>
          rcases List.mem_cons.1 hks with rfl | hks
          · exact Nat.le_max_left ..
          · exact Nat.le_trans (ih hks) (Nat.le_max_right ..)
    exact Nat.lt_succ_of_le (le_max _ hmem)
  refine ⟨fun i => if i ∈ numbers then (kept i).getD 0 else i + bound, ?_, ?_⟩
  · intro i j hij
    dsimp only at hij
    by_cases hi : i ∈ numbers
    · obtain ⟨k, hk⟩ := Option.isSome_iff_exists.1 (hkept i hi)
      have hlt := lt_bound i hi k hk
      by_cases hj : j ∈ numbers
      · obtain ⟨l, hl⟩ := Option.isSome_iff_exists.1 (hkept j hj)
        simp only [hi, hj, if_true, hk, hl, Option.getD_some] at hij
        exact h hk (hij ▸ hl)
      · simp only [hi, hj, if_true, if_false, hk, Option.getD_some] at hij
        omega
    · by_cases hj : j ∈ numbers
      · obtain ⟨l, hl⟩ := Option.isSome_iff_exists.1 (hkept j hj)
        have hlt := lt_bound j hj l hl
        simp only [hi, hj, if_true, if_false, hl, Option.getD_some] at hij
        omega
      · simp only [hi, hj, if_false] at hij
        omega
  · intro i hi
    obtain ⟨k, hk⟩ := Option.isSome_iff_exists.1 (hkept i hi)
    simp [hi, hk]

/-! ### Meaning without places -/

namespace Pattern

variable {p p' : Pattern} {flags flags' : Flags} {e : Expr}

/-- An expression means the same at other places. -/
theorem meaning_nowhere :
    (p.relabel .nowhere).meaning flags = .ok (e, flags') ↔ p.meaning flags = .ok (e, flags') := by
  have same : ∀ e : Expr, e.renumber Relabelling.nowhere.number = e := Expr.renumber_id
  rw [meaning_relabel_eq_ok Function.injective_id]
  constructor
  · rintro ⟨e', he', rfl⟩
    rwa [same]
  · intro h
    exact ⟨e, h, (same e).symm⟩

/-- Where all groups keep a number, the meaning gets the new numbers. -/
theorem meaning_of_uncounts {kept : Nat → Option Nat} {number : Nat → Nat}
    (hnumber : Function.Injective number)
    (hkept : ∀ index ∈ p.groupMarks.map Prod.snd, kept index = some (number index))
    (h : Uncounts kept p p') (he : p.meaning flags = .ok (e, flags')) :
    p'.meaning flags = .ok (e.renumber number, flags') := by
  rw [← meaning_nowhere, relabel_nowhere, h, strip_eq_relabel p hkept,
    meaning_relabel_eq_ok (r := { Relabelling.nowhere with number }) hnumber]
  exact ⟨e, he, rfl⟩

end Pattern

/-! ### Choices that lose a group -/

section

variable (fair : List Expr → Bool)

/-- Whether the branches of a choice are fair. -/
def Pattern.areFair (flags : Flags) (branches : List Pattern) : Bool :=
  (Pattern.meanings flags branches).toOption.all fun result => fair result.1

mutual

/-- **Whether the choices that lose a group are fair,** with all groups and without those that are
lost. -/
def Pattern.agrees (flags : Flags) : Pattern → Pattern → Bool
  | .repetition _ _ _ _ body, .repetition _ _ _ _ body' => body.agrees flags body'
  | .group _ kind body, .group _ _ body' => body.agrees (kind.inner flags) body'
  | .choice _ branches, .choice _ branches' =>
      Pattern.allAgree flags branches branches' &&
        ((Pattern.allGroupMarks branches).length == (Pattern.allGroupMarks branches').length ||
          (Pattern.areFair fair flags branches && Pattern.areFair fair flags branches'))
  | .sequence _ items, .sequence _ items' => Pattern.allAgree flags items items'
  | _, _ => true

/-- Whether in a list of expressions the choices that lose a group are fair. -/
def Pattern.allAgree (flags : Flags) : List Pattern → List Pattern → Bool
  | item :: rest, item' :: rest' =>
      item.agrees flags item' &&
        match item.meaning flags with
        | .ok (_, flags) => Pattern.allAgree flags rest rest'
        | .error _ => true
  | _, _ => true

end

end

/-! ### Building with fewer groups -/

/-- **A relation that the steps of building keep,** with all groups and without those that are
lost. -/
structure Expr.Parallel (kept : Nat → Option Nat) (fair : List Expr → Bool)
    (R : Expr → Expr → Prop) : Prop where
  /-- Where all groups keep a number, nothing else changes. -/
  renumber {e : Expr} {number : Nat → Nat} :
    (∀ index ∈ e.numbers, kept index = some (number index)) → R e (e.renumber number)
  repeated {e e' : Expr} (min : Nat) (max : Option Nat) (greedy : Bool) :
    R e e' → R (.repeated min max greedy e) (.repeated min max greedy e')
  /-- A group keeps a number. -/
  group {index index' : Nat} {e e' : Expr} :
    kept index = some index' → R e e' → R (.group index e) (.group index' e')
  /-- A group is lost. -/
  lost {index : Nat} {e e' : Expr} : kept index = none → R e e' → R (.group index e) e'
  concat {es es' : List Expr} : List.Forall₂ R es es' → R (.concat es) (.concat es')
  choice {es es' : List Expr} :
    fair es → fair es' → List.Forall₂ R es es' → R (.choice es) (.choice es')

namespace Pattern

variable {kept : Nat → Option Nat} {fair : List Expr → Bool} {R : Expr → Expr → Prop}

theorem inner_strip (kept : Nat → Option Nat) (flags : Flags) (kind : GroupKind) :
    (kind.strip kept).inner flags = kind.inner flags := by
  cases kind with
  | plain => rfl
  | numbered index =>
      change (((kept index).map GroupKind.numbered).getD (.plain [])).inner flags = flags
      cases kept index <;> rfl
  | named index name =>
      change (((kept index).map (GroupKind.named · name)).getD (.plain [])).inner flags = flags
      cases kept index <;> rfl

/-- What a group around parts in the relation comes to. -/
theorem rel_wrap (hR : Expr.Parallel kept fair R) {kind kind' : GroupKind} {e e' : Expr}
    (hkind : kind'.strip some = kind.strip kept) (h : R e e') :
    R (kind.wrap e) (kind'.wrap e') := by
  have wrap : ∀ kind : GroupKind, ∀ e, (kind.strip some).wrap e = kind.wrap e := by
    intro kind e
    cases kind <;> rfl
  rw [← wrap kind', hkind]
  cases kind with
  | plain => exact h
  | numbered index =>
      change R _ ((((kept index).map GroupKind.numbered).getD (.plain [])).wrap e')
      cases hindex : kept index with
      | none => exact hR.lost hindex h
      | some index' => exact hR.group hindex h
  | named index name =>
      change R _ ((((kept index).map (GroupKind.named · name)).getD (.plain [])).wrap e')
      cases hindex : kept index with
      | none => exact hR.lost hindex h
      | some index' => exact hR.group hindex h

/-- A part without groups in it means the same, and is in the relation. -/
theorem exists_meaning_of_leaf (hR : Expr.Parallel kept fair R) {p p' : Pattern}
    {flags flags' : Flags} {e : Expr} (hgroups : p.groupMarks = [])
    (h : Uncounts kept p p') (he : p.meaning flags = .ok (e, flags')) :
    ∃ e', p'.meaning flags = .ok (e', flags') ∧ R e e' := by
  have numbers : e.numbers = [] := by
    have := numbers_sublist p he
    rwa [hgroups, List.map_nil, List.sublist_nil] at this
  refine ⟨_, meaning_of_uncounts Function.injective_id (by simp [hgroups]) h he, ?_⟩
  exact hR.renumber (by simp [numbers])

/-- An expression that loses no group means the same with other numbers. -/
theorem exists_meaning_of_length (hR : Expr.Parallel kept fair R) (hkept : KeepsApart kept)
    {p p' : Pattern} {flags flags' : Flags} {e : Expr} (h : Uncounts kept p p')
    (hlength : p.groupMarks.length = p'.groupMarks.length)
    (he : p.meaning flags = .ok (e, flags')) :
    ∃ e', p'.meaning flags = .ok (e', flags') ∧ R e e' := by
  have all : ∀ index ∈ p.groupMarks.map Prod.snd, (kept index).isSome := by
    rw [← List.filterMap_length_eq_length, ← h.numbers, List.length_map, List.length_map, hlength]
  obtain ⟨number, hnumber, hindex⟩ := hkept.exists_injective _ all
  refine ⟨_, meaning_of_uncounts hnumber hindex h he, hR.renumber fun index hmem => ?_⟩
  exact hindex index ((numbers_sublist p he).subset hmem)

mutual

/-- **An expression with fewer groups has a meaning,** and what the steps of building keep holds of
both meanings, if the choices that lose a group are fair. -/
theorem exists_meaning_of_uncounts (hR : Expr.Parallel kept fair R) (hkept : KeepsApart kept)
    {flags flags' : Flags} {e : Expr} : (p p' : Pattern) → Uncounts kept p p' →
      p.agrees fair flags p' → p.meaning flags = .ok (e, flags') →
        ∃ e', p'.meaning flags = .ok (e', flags') ∧ R e e'
  | .empty _, _, h, _, he | .flags .., _, h, _, he | .literal _, _, h, _, he | .dot _, _, h, _, he
  | .assertion .., _, h, _, he | .short .., _, h, _, he | .property .., _, h, _, he
  | .bracket .., _, h, _, he => exists_meaning_of_leaf hR rfl h he
  | .repetition _ min max greedy body, p', h, hagrees, he => by
      cases p' with
      | repetition _ _ _ _ body' =>
          obtain ⟨⟨e, inner⟩, hbody, he⟩ := bind_eq_ok.1 he
          cases he
          injection h with _ hmin hmax hgreedy h
          subst hmin hmax hgreedy
          obtain ⟨e', hbody', hrel⟩ := exists_meaning_of_uncounts hR hkept body body' h hagrees hbody
          exact ⟨_, bind_eq_ok.2 ⟨(e', flags'), hbody', rfl⟩, hR.repeated _ _ _ hrel⟩
      | _ => cases h
  | .group _ kind body, p', h, hagrees, he => by
      cases p' with
      | group _ kind' body' =>
          obtain ⟨⟨e, inner⟩, hbody, he⟩ := bind_eq_ok.1 he
          cases he
          injection h with _ hkind h
          have same : kind'.inner flags = kind.inner flags := by
            rw [← inner_strip some, hkind, inner_strip]
          obtain ⟨e', hbody', hrel⟩ := exists_meaning_of_uncounts hR hkept body body' h hagrees hbody
          refine ⟨kind'.wrap e', bind_eq_ok.2 ⟨(e', inner), ?_, rfl⟩, rel_wrap hR hkind hrel⟩
          rw [same]
          exact hbody'
      | _ => cases h
  | .choice span branches, p', h, hagrees, he => by
      cases p' with
      | choice _ branches' =>
          obtain ⟨hall, hfair⟩ := Bool.and_eq_true_iff.1 hagrees
          have meaning := he
          obtain ⟨⟨es, inner⟩, hes, he⟩ := bind_eq_ok.1 he
          cases he
          rcases Bool.or_eq_true_iff.1 hfair with hlength | hfair
          · exact exists_meaning_of_length hR hkept h (beq_iff_eq.1 hlength) meaning
          · obtain ⟨hfair, hfair'⟩ := Bool.and_eq_true_iff.1 hfair
            injection h with _ h
            obtain ⟨es', hes', hrel⟩ :=
              exists_meanings_of_uncounts hR hkept branches branches' h hall hes
            refine ⟨_, bind_eq_ok.2 ⟨(es', flags'), hes', rfl⟩, hR.choice ?_ ?_ hrel⟩
            · simpa [areFair, hes, Except.toOption] using hfair
            · simpa [areFair, hes', Except.toOption] using hfair'
      | _ => cases h
  | .sequence _ items, p', h, hagrees, he => by
      cases p' with
      | sequence _ items' =>
          obtain ⟨⟨es, inner⟩, hes, he⟩ := bind_eq_ok.1 he
          cases he
          injection h with _ h
          obtain ⟨es', hes', hrel⟩ :=
            exists_meanings_of_uncounts hR hkept items items' h hagrees hes
          exact ⟨_, bind_eq_ok.2 ⟨(es', flags'), hes', rfl⟩, hR.concat hrel⟩
      | _ => cases h

theorem exists_meanings_of_uncounts (hR : Expr.Parallel kept fair R) (hkept : KeepsApart kept)
    {flags flags' : Flags} {es : List Expr} : (items items' : List Pattern) →
      stripAll some items' = stripAll kept items → allAgree fair flags items items' →
        meanings flags items = .ok (es, flags') →
          ∃ es', meanings flags items' = .ok (es', flags') ∧ List.Forall₂ R es es'
  | [], items', h, _, he => by
      cases items' with
      | nil =>
          cases he
          exact ⟨[], rfl, .nil⟩
      | cons => cases h
  | item :: rest, items', h, hagrees, he => by
      cases items' with
      | nil => cases h
      | cons item' rest' =>
          obtain ⟨⟨e, inner⟩, hitem, he⟩ := bind_eq_ok.1 he
          obtain ⟨⟨es, last⟩, hrest, he⟩ := bind_eq_ok.1 he
          cases he
          injection h with h hs
          obtain ⟨hagrees, hall⟩ := Bool.and_eq_true_iff.1 hagrees
          rw [hitem] at hall
          obtain ⟨e', hitem', hrel⟩ :=
            exists_meaning_of_uncounts hR hkept item item' h hagrees hitem
          obtain ⟨es', hrest', hrels⟩ :=
            exists_meanings_of_uncounts hR hkept rest rest' hs hall hrest
          refine ⟨e' :: es', ?_, .cons hrel hrels⟩
          exact bind_eq_ok.2 ⟨(e', inner), hitem', bind_eq_ok.2 ⟨(es', flags'), hrest', rfl⟩⟩

end

end Pattern

end ParamTemplate.Regex
