/-
**The groups that last.**

What is repeated zero times is nothing, and its groups are lost.  No other group is lost when the
meaning of an expression is built: what all branches of a choice begin with is taken out of all but
one of them, but a group with a number is never the same in two branches.  So the groups of the
meaning can be read off what is written, and no flag has a part in it.

Main definition:

* `Regex.Pattern.lasting` — the numbers of the groups that last.

Main results:

* `Regex.Pattern.numbers_of_meaning` — **the groups of a meaning are those that last**;
* `Regex.Pattern.lasting_relabel` — at another place, groups with other numbers last.
-/

import ParamTemplate.Proofs.Regex.Groups

set_option autoImplicit false

namespace ParamTemplate.Regex

mutual

/-- **The numbers of the groups that last,** in the order in which they are opened: around them
nothing is repeated zero times. -/
def Pattern.lasting : Pattern → List Nat
  | .repetition _ _ max _ body => if max = some 0 then [] else body.lasting
  | .group span kind body => (kind.marks span.start).map Prod.snd ++ body.lasting
  | .choice _ branches => Pattern.allLasting branches
  | .sequence _ items => Pattern.allLasting items
  | _ => []

/-- The numbers of the groups that last of a list of expressions. -/
def Pattern.allLasting : List Pattern → List Nat
  | [] => []
  | item :: rest => item.lasting ++ Pattern.allLasting rest

end

namespace Pattern

theorem allLasting_eq_flatMap (items : List Pattern) :
    allLasting items = items.flatMap lasting := by
  induction items with
  | nil => rfl
  | cons item rest ih => rw [allLasting, ih, List.flatMap_cons]

mutual

/-- The groups that last are some of the written ones. -/
theorem lasting_sublist : (p : Pattern) → p.lasting.Sublist (p.groupMarks.map Prod.snd)
  | .empty _ | .flags .. | .literal _ | .dot _ | .assertion .. | .short .. | .property ..
  | .bracket .. => List.Sublist.refl _
  | .repetition _ _ max _ body => by
      rw [lasting, groupMarks]
      split
      · exact List.nil_sublist _
      · exact lasting_sublist body
  | .group span kind body => by
      rw [lasting, groupMarks, List.map_append]
      exact (List.Sublist.refl _).append (lasting_sublist body)
  | .choice _ branches => allLasting_sublist branches
  | .sequence _ items => allLasting_sublist items

theorem allLasting_sublist : (items : List Pattern) →
    (allLasting items).Sublist ((allGroupMarks items).map Prod.snd)
  | [] => List.Sublist.refl _
  | item :: rest => by
      rw [allLasting, allGroupMarks, List.map_append]
      exact (lasting_sublist item).append (allLasting_sublist rest)

end

mutual

/-- **At another place, groups with other numbers last.** -/
theorem lasting_relabel (r : Relabelling) : (p : Pattern) →
    (p.relabel r).lasting = p.lasting.map r.number
  | .empty _ | .flags .. | .literal _ | .dot _ | .assertion .. | .short .. | .property ..
  | .bracket .. => rfl
  | .repetition _ _ max _ body => by
      rw [relabel, lasting, lasting, lasting_relabel r body]
      split <;> rfl
  | .group span kind body => by
      have numbers : ((kind.relabel r).marks (r.group span).start).map Prod.snd =
          ((kind.marks span.start).map Prod.snd).map r.number := by
        cases kind <;> rfl
      rw [relabel, lasting, lasting, numbers, lasting_relabel r body, List.map_append]
  | .choice _ branches => allLasting_relabel r branches
  | .sequence _ items => allLasting_relabel r items

theorem allLasting_relabel (r : Relabelling) : (items : List Pattern) →
    allLasting (relabelAll r items) = (allLasting items).map r.number
  | [] => rfl
  | item :: rest => by
      rw [relabelAll, allLasting, allLasting, lasting_relabel r item, allLasting_relabel r rest,
        List.map_append]

end

end Pattern

/-! ### Meaning -/

namespace Pattern

mutual

/-- **The groups of a meaning are those that last,** if no number is used twice. -/
theorem numbers_of_meaning {flags flags' : Flags} {e : Expr} : (p : Pattern) → p.lasting.Nodup →
    p.meaning flags = .ok (e, flags') → e.numbers = p.lasting
  | .empty _, _, h | .flags .., _, h | .assertion .., _, h => by
      cases h
      rfl
  | .literal _, _, h => by
      obtain ⟨e, he, h⟩ := bind_eq_ok.1 h
      cases h
      obtain ⟨_, -, he⟩ := bind_eq_ok.1 he
      cases he
      exact numbers_char ..
  | .dot _, _, h => by
      obtain ⟨e, he, h⟩ := bind_eq_ok.1 h
      cases h
      exact numbers_dot he
  | .short .., _, h | .property .., _, h => by
      obtain ⟨_, -, h⟩ := bind_eq_ok.1 h
      cases h
      exact Expr.numbers_ofSet ..
  | .bracket .., _, h => by
      obtain ⟨_, -, h⟩ := bind_eq_ok.1 h
      obtain ⟨_, -, h⟩ := bind_eq_ok.1 h
      cases h
      exact Expr.numbers_ofSet ..
  | .repetition _ min max greedy body, hnodup, h => by
      obtain ⟨⟨e, inner⟩, he, h⟩ := bind_eq_ok.1 h
      cases h
      rw [lasting] at hnodup ⊢
      rw [Expr.numbers_repeated]
      split
      · rfl
      next hmax =>
        rw [if_neg hmax] at hnodup
        exact numbers_of_meaning body hnodup he
  | .group span kind body, hnodup, h => by
      obtain ⟨⟨e, inner⟩, he, h⟩ := bind_eq_ok.1 h
      cases h
      rw [lasting] at hnodup ⊢
      rw [kind.numbers_wrap e span.start,
        numbers_of_meaning body (List.nodup_append.1 hnodup).2.1 he]
  | .choice _ branches, hnodup, h => by
      obtain ⟨⟨es, inner⟩, hes, h⟩ := bind_eq_ok.1 h
      cases h
      have inside := numbers_of_meanings branches hnodup hes
      exact ((Expr.chosen_choice es).numbers_eq (inside ▸ hnodup)).trans inside
  | .sequence _ items, hnodup, h => by
      obtain ⟨⟨es, inner⟩, hes, h⟩ := bind_eq_ok.1 h
      cases h
      rw [Expr.numbers_concat]
      exact numbers_of_meanings items hnodup hes

theorem numbers_of_meanings {flags flags' : Flags} {es : List Expr} : (items : List Pattern) →
    (allLasting items).Nodup → meanings flags items = .ok (es, flags') →
      es.flatMap Expr.numbers = allLasting items
  | [], _, h => by
      cases h
      rfl
  | item :: rest, hnodup, h => by
      obtain ⟨⟨e, inner⟩, he, h⟩ := bind_eq_ok.1 h
      obtain ⟨⟨es, last⟩, hes, h⟩ := bind_eq_ok.1 h
      cases h
      obtain ⟨hitem, hrest, -⟩ := List.nodup_append.1 hnodup
      rw [List.flatMap_cons, allLasting, numbers_of_meaning item hitem he,
        numbers_of_meanings rest hrest hes]

end

end Pattern

end ParamTemplate.Regex
