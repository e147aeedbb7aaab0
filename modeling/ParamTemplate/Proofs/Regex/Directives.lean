/-
**Flag settings that stand alone.**

A list of flags that stands alone holds up to the end of the group around it.  Inside of a group it
cannot be seen from outside, so what counts for an expression as a whole are the settings at its top
level.

Main definition:

* `Regex.Pattern.directives` — the flag settings at the top level of an expression.

Main result:

* `Regex.Pattern.flags_of_meaning` — **an expression without settings at its top level leaves the
  flags as they are.**
-/

import ParamTemplate.Proofs.Regex.Relabelling

set_option autoImplicit false

namespace ParamTemplate.Regex

mutual

/-- **The flag settings at the top level of an expression,** in the order in which they stand. -/
def Pattern.directives : Pattern → List (List FlagItem)
  | .flags _ items => [items]
  | .repetition _ _ _ _ body => body.directives
  | .choice _ branches => Pattern.allDirectives branches
  | .sequence _ items => Pattern.allDirectives items
  | _ => []

/-- The flag settings at the top level of a list of expressions. -/
def Pattern.allDirectives : List Pattern → List (List FlagItem)
  | [] => []
  | item :: rest => item.directives ++ Pattern.allDirectives rest

end

theorem Pattern.allDirectives_eq_flatMap (items : List Pattern) :
    Pattern.allDirectives items = items.flatMap Pattern.directives := by
  induction items with
  | nil => rfl
  | cons item rest ih => rw [Pattern.allDirectives, ih, List.flatMap_cons]

mutual

/-- **An expression without flag settings at its top level leaves the flags as they are.** -/
theorem Pattern.flags_of_meaning {flags flags' : Flags} {e : Expr} : (p : Pattern) →
    p.directives = [] → p.meaning flags = .ok (e, flags') → flags' = flags
  | .empty _, _, h | .assertion .., _, h => by
      cases h
      rfl
  | .flags .., hd, _ => by cases hd
  | .literal _, _, h | .dot _, _, h | .short .., _, h | .property .., _, h => by
      obtain ⟨_, -, h⟩ := bind_eq_ok.1 h
      cases h
      rfl
  | .bracket .., _, h => by
      obtain ⟨_, -, h⟩ := bind_eq_ok.1 h
      obtain ⟨_, -, h⟩ := bind_eq_ok.1 h
      cases h
      rfl
  | .repetition _ _ _ _ body, hd, h => by
      obtain ⟨⟨e, inner⟩, he, h⟩ := bind_eq_ok.1 h
      cases h
      exact Pattern.flags_of_meaning body hd he
  | .group .., _, h => by
      obtain ⟨_, -, h⟩ := bind_eq_ok.1 h
      cases h
      rfl
  | .choice _ branches, hd, h => by
      obtain ⟨⟨es, inner⟩, hes, h⟩ := bind_eq_ok.1 h
      cases h
      exact Pattern.flags_of_meanings branches hd hes
  | .sequence _ items, hd, h => by
      obtain ⟨⟨es, inner⟩, hes, h⟩ := bind_eq_ok.1 h
      cases h
      exact Pattern.flags_of_meanings items hd hes

theorem Pattern.flags_of_meanings {flags flags' : Flags} {es : List Expr} :
    (items : List Pattern) → Pattern.allDirectives items = [] →
      Pattern.meanings flags items = .ok (es, flags') → flags' = flags
  | [], _, h => by
      cases h
      rfl
  | item :: rest, hd, h => by
      obtain ⟨hitem, hrest⟩ := List.append_eq_nil_iff.1 hd
      obtain ⟨⟨e, inner⟩, he, h⟩ := bind_eq_ok.1 h
      obtain ⟨⟨es, last⟩, hes, h⟩ := bind_eq_ok.1 h
      cases h
      rw [Pattern.flags_of_meanings rest hrest hes, Pattern.flags_of_meaning item hitem he]

end

/-! ### Sequences -/

theorem Pattern.length_meanings {flags flags' : Flags} {items : List Pattern} {es : List Expr}
    (h : Pattern.meanings flags items = .ok (es, flags')) : es.length = items.length := by
  induction items generalizing flags es with
  | nil =>
      cases h
      rfl
  | cons item rest ih =>
      obtain ⟨⟨e, inner⟩, -, h⟩ := bind_eq_ok.1 h
      obtain ⟨⟨es, last⟩, hes, h⟩ := bind_eq_ok.1 h
      cases h
      rw [List.length_cons, List.length_cons, ih hes]

/-- **The meaning of a list of two parts:** the second part is under the flags in force after the
first. -/
theorem Pattern.meanings_append {flags flags' : Flags} {items more : List Pattern}
    {es : List Expr} : Pattern.meanings flags (items ++ more) = .ok (es, flags') ↔
      ∃ first inner second, Pattern.meanings flags items = .ok (first, inner) ∧
        Pattern.meanings inner more = .ok (second, flags') ∧ es = first ++ second := by
  induction items generalizing flags es with
  | nil =>
      constructor
      · exact fun h => ⟨[], flags, es, rfl, h, rfl⟩
      · rintro ⟨_, _, _, hfirst, hsecond, rfl⟩
        cases hfirst
        exact hsecond
  | cons item items ih =>
      constructor
      · intro h
        obtain ⟨⟨e, inner⟩, he, h⟩ := bind_eq_ok.1 h
        obtain ⟨⟨es, last⟩, hes, h⟩ := bind_eq_ok.1 h
        cases h
        obtain ⟨first, between, second, hfirst, hsecond, rfl⟩ := ih.1 hes
        refine ⟨e :: first, between, second, ?_, hsecond, rfl⟩
        exact bind_eq_ok.2 ⟨(e, inner), he, bind_eq_ok.2 ⟨(first, between), hfirst, rfl⟩⟩
      · rintro ⟨_, between, second, hfirst, hsecond, rfl⟩
        obtain ⟨⟨e, inner⟩, he, hfirst⟩ := bind_eq_ok.1 hfirst
        obtain ⟨⟨first, last⟩, hes, hfirst⟩ := bind_eq_ok.1 hfirst
        cases hfirst
        have rest := ih.2 ⟨first, between, second, hes, hsecond, rfl⟩
        exact bind_eq_ok.2 ⟨(e, inner), he, bind_eq_ok.2 ⟨(first ++ second, flags'), rest, rfl⟩⟩

end ParamTemplate.Regex
