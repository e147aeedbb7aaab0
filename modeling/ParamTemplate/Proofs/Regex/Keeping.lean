/-
**Groups that are written and groups that are left.**

The meaning of an expression may have fewer groups than are written in it, because what is repeated
zero times is nothing.  Whether a group lasts does not depend on its number.  So if a meaning has all
groups, and some of them lose their numbers, then the meaning of what is left has all groups that are
left.

Main results:

* `Regex.Pattern.exists_matchAlike` — an expression with fewer groups has a meaning, which matches
  the same;
* `Regex.Pattern.lasting_strip` — the groups that last of what is left;
* `Regex.Pattern.numbers_of_uncounts` — **with fewer groups, no other group is lost.**
-/

import ParamTemplate.Proofs.Regex.Lasting
import ParamTemplate.Proofs.Regex.Ungrouping

set_option autoImplicit false

namespace ParamTemplate.Regex.Pattern

/-! ### Matches -/

mutual

/-- All choices are fair if nothing is asked of them. -/
theorem agrees_true (flags : Flags) : (p p' : Pattern) → agrees (fun _ => true) flags p p' = true
  | .empty _, _ | .flags .., _ | .literal _, _ | .dot _, _ | .assertion .., _ | .short .., _
  | .property .., _ | .bracket .., _ => by simp [agrees]
  | .repetition _ _ _ _ body, p' => by
      cases p' <;> simp [agrees, agrees_true flags body]
  | .group _ kind body, p' => by
      cases p' <;> simp [agrees, agrees_true (kind.inner flags) body]
  | .choice _ branches, p' => by
      cases p' <;> simp [agrees, areFair, allAgree_true flags branches]
  | .sequence _ items, p' => by
      cases p' <;> simp [agrees, allAgree_true flags items]

theorem allAgree_true (flags : Flags) : (items items' : List Pattern) →
    allAgree (fun _ => true) flags items items' = true
  | [], _ => by simp [allAgree]
  | item :: rest, items' => by
      cases items' with
      | nil => simp [allAgree]
      | cons item' rest' =>
          rw [allAgree, agrees_true flags item item', Bool.true_and]
          split
          · exact allAgree_true _ rest rest'
          · rfl

end

variable {kept : Nat → Option Nat} {flags flags' : Flags}

/-- **An expression with fewer groups has a meaning,** which matches the same. -/
theorem exists_matchAlike (hkept : KeepsApart kept) {p p' : Pattern} {e : Expr}
    (h : Uncounts kept p p') (he : p.meaning flags = .ok (e, flags')) :
    ∃ e', p'.meaning flags = .ok (e', flags') ∧ Expr.MatchAlike e e' :=
  exists_meaning_of_uncounts (Expr.parallel_matches kept) hkept p p' h (agrees_true ..) he

/-! ### Groups -/

/-- The groups that are left have different numbers. -/
theorem Uncounts.nodup (hkept : KeepsApart kept) {p p' : Pattern} (h : Uncounts kept p p')
    (hnodup : (p.groupMarks.map Prod.snd).Nodup) : (p'.groupMarks.map Prod.snd).Nodup := by
  rw [h.numbers]
  exact hnodup.filterMap fun _ _ _ hi hj => hkept hi hj

mutual

/-- **Of what is left of an expression, those groups last that are left and lasted.** -/
theorem lasting_strip : (p : Pattern) → (p.strip kept).lasting = p.lasting.filterMap kept
  | .empty _ | .flags .. | .literal _ | .dot _ | .assertion .. | .short .. | .property ..
  | .bracket .. => rfl
  | .repetition _ _ max _ body => by
      rw [strip, lasting, lasting, lasting_strip body]
      split <;> rfl
  | .group span kind body => by
      rw [strip, lasting, lasting, lasting_strip body, GroupKind.numbers_strip _ span.start,
        List.filterMap_append]
  | .choice _ branches => allLasting_strip branches
  | .sequence _ items => allLasting_strip items

theorem allLasting_strip : (items : List Pattern) →
    allLasting (stripAll kept items) = (allLasting items).filterMap kept
  | [] => rfl
  | item :: rest => by
      rw [stripAll, allLasting, allLasting, lasting_strip item, allLasting_strip rest,
        List.filterMap_append]

end

theorem Uncounts.lasting {p p' : Pattern} (h : Uncounts kept p p') :
    p'.lasting = p.lasting.filterMap kept := by
  rw [← lasting_strip, ← h, lasting_strip, List.filterMap_some]

/-- **If the meaning of an expression has all groups that are written in it, so has the meaning of
the expression with fewer groups.** -/
theorem numbers_of_uncounts (hkept : KeepsApart kept) {p p' : Pattern} (h : Uncounts kept p p')
    (hnodup : (p.groupMarks.map Prod.snd).Nodup) {e e' : Expr} {inner inner' : Flags}
    (he : p.meaning flags = .ok (e, inner)) (he' : p'.meaning flags' = .ok (e', inner'))
    (hall : e.numbers = p.groupMarks.map Prod.snd) : e'.numbers = p'.groupMarks.map Prod.snd :=
  calc e'.numbers
    _ = p'.lasting := p'.numbers_of_meaning ((h.nodup hkept hnodup).sublist p'.lasting_sublist) he'
    _ = p.lasting.filterMap kept := h.lasting
    _ = (p.groupMarks.map Prod.snd).filterMap kept := by
        rw [← hall, p.numbers_of_meaning (hnodup.sublist p.lasting_sublist) he]
    _ = p'.groupMarks.map Prod.snd := h.numbers.symm

end ParamTemplate.Regex.Pattern
