/-
**Segments in the assembled expression.**

A segment whose expression is accepted on its own is read in the assembled expression as it is read
on its own, as long as the segments before it are accepted on their own, too, and blanks count
behind them.  A literal adds its items to the sequence at hand; a placeholder adds a group.  The
groups of a segment are numbered from the number of groups before it on.

Main definitions:

* `Template.Segment.expr` — the expression of a segment;
* `Template.Segment.written` — how many groups are written in a segment, its own one included;
* `Template.placed` — the expressions of segments with the numbers they have in the assembled one.

Main results:

* `Template.ready_of_segments` — **what is read of segments, one after the other**;
* `Template.run_of_segments` — **the assembled expression runs as its segments do, one after the
  other.**
-/

import Mathlib.Algebra.Ring.Nat
import ParamTemplate.Proofs.Regex.Limits
import ParamTemplate.Proofs.Regex.Reader.Sequence
import ParamTemplate.Template

set_option autoImplicit false

namespace ParamTemplate.Template

open Regex Regex.Reader

/-! ### Segments -/

namespace Segment

/-- The expression of a segment; a segment that is refused on its own has none. -/
def expr (segment : Segment) : Expr :=
  match Regex.compile segment.body with
  | .ok regex => regex.expr
  | .error _ => .empty

/-- **How many groups are written in a segment,** its own one included. -/
def written (segment : Segment) : Nat :=
  ((Pattern.read segment.body).toOption.map (·.groupMarks.length)).getD 0 +
    if segment.isPlaceholder then 1 else 0

/-- The expression of a segment in the assembled one, behind a number of groups. -/
def place (groups : Nat) (segment : Segment) : Expr :=
  if segment.isPlaceholder then .group (groups + 1) (segment.expr.renumber (groups + 1 + ·))
  else segment.expr.renumber (groups + ·)

/-- Whether no flag setting at the top level of a segment makes blanks ignored. -/
def CountsBlanks (segment : Segment) : Prop :=
  ∀ p, Pattern.read segment.body = .ok p →
    ∀ items ∈ p.directives, flagState .verbose items ≠ some true

/-- Whether a segment is accepted on its own, and blanks count behind it. -/
structure Stands (segment : Segment) : Prop where
  accepted : ∃ regex, Regex.compile segment.body = .ok regex
  countsBlanks : segment.CountsBlanks

/-- Whether a segment is accepted on its own, and has neither bars nor flag settings at its top
level. -/
structure IsPlain (segment : Segment) : Prop where
  accepted : ∃ regex, Regex.compile segment.body = .ok regex
  isChoice : ∀ p, Pattern.read segment.body = .ok p → p.isChoice = false
  directives : ∀ p, Pattern.read segment.body = .ok p → p.directives = []

instance (segment : Segment) : Decidable segment.CountsBlanks :=
  decidable_of_iff (∀ p ∈ (Pattern.read segment.body).toOption,
    ∀ items ∈ p.directives, flagState .verbose items ≠ some true)
    ⟨fun h p hp => h p (by rw [hp]; rfl), fun h p hp => h p (eq_ok_of_toOption hp)⟩

instance (segment : Segment) : Decidable segment.IsPlain :=
  decidable_of_iff ((Regex.compile segment.body).toOption.isSome ∧
    ∀ p ∈ (Pattern.read segment.body).toOption, p.isChoice = false ∧ p.directives = [])
    ⟨fun ⟨haccepted, h⟩ => {
      accepted := (Option.isSome_iff_exists.1 haccepted).imp fun _ => eq_ok_of_toOption
      isChoice := fun p hp => (h p (by rw [hp]; rfl)).1
      directives := fun p hp => (h p (by rw [hp]; rfl)).2 },
    fun h => ⟨by obtain ⟨regex, hregex⟩ := h.accepted; rw [hregex]; rfl,
      fun p hp => ⟨h.isChoice p (eq_ok_of_toOption hp), h.directives p (eq_ok_of_toOption hp)⟩⟩⟩

instance (segment : Segment) : Decidable segment.Stands :=
  decidable_of_iff ((Regex.compile segment.body).toOption.isSome ∧ segment.CountsBlanks)
    ⟨fun ⟨haccepted, hblanks⟩ =>
      ⟨(Option.isSome_iff_exists.1 haccepted).imp fun _ => eq_ok_of_toOption, hblanks⟩,
    fun h => ⟨by obtain ⟨regex, hregex⟩ := h.accepted; rw [hregex]; rfl, h.countsBlanks⟩⟩

variable {segment : Segment}

theorem IsPlain.stands (h : segment.IsPlain) : segment.Stands where
  accepted := h.accepted
  countsBlanks p hp items hitems := by
    rw [h.directives p hp] at hitems
    cases hitems

/-- **What is known of a segment that stands on its own.** -/
theorem Stands.exists_alone (h : segment.Stands) : ∃ u p flags, Alone segment.body u p ∧
    Pattern.read segment.body = .ok p ∧ p.meaning {} = .ok (segment.expr, flags) ∧
      u.verbose = false ∧
        u.groups + (if segment.isPlaceholder then 1 else 0) = segment.written := by
  obtain ⟨regex, hregex⟩ := h.accepted
  obtain ⟨u, p, hu⟩ := exists_accepted hregex
  obtain ⟨flags, hmeaning⟩ := hu.meaning
  refine ⟨u, p, flags, hu.alone, hu.read, ?_, hu.alone.verbose (h.countsBlanks p hu.read), ?_⟩
  · rw [expr, hregex]
    exact hmeaning
  · rw [written, hu.read, ← hu.alone.length_marks]
    rfl

end Segment

/-- How many groups are written in segments. -/
def written (segments : List Segment) : Nat := (segments.map Segment.written).sum

/-- **The expressions of segments,** with the numbers that their groups have in the assembled
expression, behind a number of groups. -/
def placed : Nat → List Segment → List Expr
  | _, [] => []
  | groups, segment :: rest => segment.place groups :: placed (groups + segment.written) rest

/-! ### Counting groups -/

namespace Segment

variable {segment : Segment} {pieces : List Piece}

theorem groupCount?_of_mem {next position : Nat}
    (h : segment ∈ ofPiecesFrom next position pieces) :
    segment.groupCount? = Regex.groupCount? segment.body := by
  induction pieces generalizing next position with
  | nil => cases h
  | cons piece rest ih =>
      rcases List.mem_cons.1 h with rfl | h
      · cases piece <;> rfl
      · exact ih h

/-- The expression of a placeholder without complaint is accepted on its own. -/
theorem exists_compile_of_error? (h : segment.groupCount? = Regex.groupCount? segment.body)
    (herror : segment.error? = none) (hplaceholder : segment.isPlaceholder) :
    ∃ regex, Regex.compile segment.body = .ok regex := by
  obtain ⟨name, hname⟩ := Option.isSome_iff_exists.1 hplaceholder
  cases hcompile : Regex.compile segment.body with
  | ok regex => exact ⟨regex, rfl⟩
  | error cause =>
      have count : segment.groupCount? = none := by
        rw [h, Regex.groupCount?, hcompile]
        rfl
      rw [error?, hname, count] at herror
      dsimp only at herror
      rw [hcompile] at herror
      cases herror

/-- **A placeholder has the number that is found by counting** the groups of the segments before
it. -/
theorem index?_of_getElem? {next position k : Nat} {segments : List Segment}
    (hsegments : ofPiecesFrom next position pieces = segments) (h : segments[k]? = some segment)
    (hplaceholder : segment.isPlaceholder) :
    segment.index? = some (next + ((segments.take k).map width).sum) := by
  induction pieces generalizing next position k segments with
  | nil =>
      cases hsegments
      cases h
  | cons piece rest ih =>
      subst hsegments
      cases k with
      | zero =>
          cases h
          cases piece with
          | literal text => cases hplaceholder
          | placeholder body => rfl
      | succ k =>
          rw [ih rfl h, ofPiecesFrom, List.take_succ_cons, List.map_cons, List.sum_cons,
            Nat.add_assoc]

/-- **No more groups are counted than are written.** -/
theorem width_le_written (h : segment.groupCount? = Regex.groupCount? segment.body) :
    segment.width ≤ segment.written := by
  refine Nat.add_le_add_right ?_ _
  rw [h, Regex.groupCount?]
  cases hcompile : Regex.compile segment.body with
  | error cause => exact Nat.zero_le _
  | ok regex =>
      obtain ⟨p, -, hp, -⟩ := read_of_compile hcompile
      rw [hp]
      exact groupCount_le hcompile hp

end Segment

theorem sum_width_le_written {segments : List Segment}
    (h : ∀ segment ∈ segments, segment.groupCount? = Regex.groupCount? segment.body) :
    (segments.map Segment.width).sum ≤ written segments := by
  induction segments with
  | nil => exact Nat.le_refl _
  | cons segment segments ih =>
      obtain ⟨hsegment, hsegments⟩ := List.forall_mem_cons.1 h
      exact Nat.add_le_add (Segment.width_le_written hsegment) (ih hsegments)

/-- **The count is right** if and only if each segment keeps all groups that are written in it. -/
theorem sum_width_eq_written_iff {segments : List Segment}
    (h : ∀ segment ∈ segments, segment.groupCount? = Regex.groupCount? segment.body) :
    (segments.map Segment.width).sum = written segments ↔
      ∀ segment ∈ segments, segment.width = segment.written := by
  induction segments with
  | nil => simp [written]
  | cons segment segments ih =>
      obtain ⟨hsegment, hsegments⟩ := List.forall_mem_cons.1 h
      have first := Segment.width_le_written hsegment
      have rest := sum_width_le_written hsegments
      have ih := ih hsegments
      simp only [written, List.map_cons, List.sum_cons] at rest ih ⊢
      constructor
      · intro hsum
        exact List.forall_mem_cons.2 ⟨by omega, ih.1 (by omega)⟩
      · intro hall
        obtain ⟨hhead, htail⟩ := List.forall_mem_cons.1 hall
        rw [hhead, ih.2 htail]

/-! ### Reading segments -/

variable {s s' t : Reader} {segment : Segment} {segments : List Segment}

/-- A segment behind others: where reading goes on, and what has come to the level. -/
theorem ready_of_segment {u : Reader} {p : Pattern} (h : s.Ready t) (ha : Alone segment.body u p)
    (hcomment : u.comment = false) (hv : segment.isPlaceholder = false → u.verbose = false)
    (hs : s.feedAll segment.source = .ok s') :
    ∃ t', s'.Ready t' ∧ t'.pos = t.pos + segment.source.length ∧
      t'.groups = t.groups + (u.groups + if segment.isPlaceholder then 1 else 0) ∧
      t'.stack = t.stack ∧
      t'.names.map Prod.fst = u.names.map Prod.fst ++ t.names.map Prod.fst ∧
      t'.level = if segment.isPlaceholder then
        t.level.push (.group ⟨t.pos, t.pos + segment.source.length⟩ (.numbered (t.groups + 1))
          (p.relabel t.afterParenthesis.frame.relabelling))
      else t.level.join (u.settled.level.moved t.frame) := by
  unfold Segment.source at hs ⊢
  cases hplaceholder : segment.isPlaceholder with
  | false =>
      simp only [hplaceholder, Bool.false_eq_true, if_false] at hs ⊢
      refine ⟨_, h.join ha (hv hplaceholder) hs, ?_, ?_, ?_, ?_, ?_⟩
      · rw [pos_on, pos_settled, ha.pos]
        rfl
      · simp only [on, groups_settled, frame, Nat.add_zero]
      · simp only [on, stack_settled, ha.done.stack, Frame.open, frame]
      · simp [on, frame, Function.comp_def]
      · simp only [on, stack_settled, ha.done.stack, List.isEmpty_nil, Level.on, if_true, frame]
  | true =>
      simp only [hplaceholder, if_true] at hs ⊢
      obtain ⟨rfl, hresting⟩ := h.group ha hcomment hs
      have length : t.pos + 1 + segment.body.length + 1 =
          t.pos + ('(' :: segment.body ++ [')']).length := by
        simp only [List.cons_append, List.length_cons, List.length_append, List.length_nil]
        exact congrArg (· + 1) (Nat.add_right_comm t.pos 1 segment.body.length)
      refine ⟨_, hresting.ready, length, ?_, rfl, ?_, ?_⟩
      · simp only [on, frame, afterParenthesis, openNumbered, openGroup]
        exact (Nat.add_assoc ..).trans (congrArg _ (Nat.add_comm ..))
      · simp [on, frame, afterParenthesis, openNumbered, openGroup, Function.comp_def]
      · dsimp only
        rw [length]

/-- **What is read of segments, one after the other.** -/
theorem ready_of_segments (hstands : ∀ segment ∈ segments, segment.Stands) (h : s.Ready t)
    (hs : s.feedAll (assemble segments) = .ok s') :
    ∃ t', s'.Ready t' ∧ t'.pos = t.pos + (assemble segments).length ∧
      t'.groups = t.groups + written segments ∧ t'.stack = t.stack := by
  induction segments generalizing s t with
  | nil =>
      cases hs
      exact ⟨t, h, rfl, rfl, rfl⟩
  | cons segment segments ih =>
      obtain ⟨hsegment, hsegments⟩ := List.forall_mem_cons.1 hstands
      obtain ⟨u, p, flags, hu, -, -, hv, hgroups⟩ := hsegment.exists_alone
      rw [assemble_cons, feedAll_append] at hs
      obtain ⟨v, hfirst, hs⟩ := bind_eq_ok.1 hs
      obtain ⟨w, hw, hpos, hwritten, hstack, -⟩ :=
        ready_of_segment h hu (hu.comment hv) (fun _ => hv) hfirst
      obtain ⟨t', ht', hpos', hwritten', hstack'⟩ := ih hsegments hw hs
      refine ⟨t', ht', ?_, ?_, hstack'.trans hstack⟩
      · rw [hpos', hpos, assemble_cons, List.length_append]
        exact Nat.add_assoc ..
      · rw [hwritten', hwritten, hgroups, written, written, List.map_cons, List.sum_cons,
          Nat.add_assoc]

/-! ### What the assembled expression means -/

/-- A segment behind others adds its expression, with other numbers for the groups. -/
theorem means_of_segment {es : List Expr} (hstands : segment.Stands)
    (hplain : segment.isPlaceholder = false → segment.IsPlain) (h : s.Ready t)
    (hmeans : t.level.Means es) (hs : s.feedAll segment.source = .ok s') :
    ∃ t' es', s'.Ready t' ∧ t'.groups = t.groups + segment.written ∧ t'.level.Means (es ++ es') ∧
      .row es' = segment.place t.groups := by
  obtain ⟨u, p, flags, hu, hp, hmeaning, hv, hgroups⟩ := hstands.exists_alone
  obtain ⟨t', ht', -, hwritten, -, -, hlevel⟩ :=
    ready_of_segment h hu (hu.comment hv) (fun _ => hv) hs
  rw [hgroups] at hwritten
  unfold Segment.place
  cases hplaceholder : segment.isPlaceholder with
  | false =>
      rw [hplaceholder, if_neg Bool.false_ne_true] at hlevel
      have plain := hplain hplaceholder
      -- Without settings and bars, the items mean the same behind other items.
      cases Pattern.flags_of_meaning p (plain.directives p hp) hmeaning
      rw [← hu.close] at hmeaning
      have rows : u.settled.level.rows = [] :=
        Level.rows_of_close ((congrArg _ hu.close).trans (plain.isChoice p hp))
      obtain ⟨es', hes', hrow⟩ := hmeans.join (f := t.frame) rows hmeaning
      exact ⟨t', es', ht', hwritten, hlevel ▸ hes', hrow⟩
  | true =>
      rw [hplaceholder, if_pos rfl] at hlevel
      have inside := (Pattern.meaning_relabel_eq_ok
        t.afterParenthesis.frame.number_injective).2 ⟨segment.expr, hmeaning, rfl⟩
      refine ⟨t', [_], ht', hwritten, hlevel ▸ hmeans.push ?_, rfl⟩
      exact bind_eq_ok.2 ⟨_, inside, rfl⟩

/-- Segments behind others add their expressions, one after the other. -/
theorem means_of_segments {es : List Expr} (hstands : ∀ segment ∈ segments, segment.Stands)
    (hplain : ∀ segment ∈ segments, segment.isPlaceholder = false → segment.IsPlain)
    (h : s.Ready t) (hmeans : t.level.Means es) (hs : s.feedAll (assemble segments) = .ok s') :
    ∃ t' es', s'.Ready t' ∧ t'.level.Means (es ++ es') ∧ ∀ text i saves j,
      Expr.RunAll text es' i saves j ↔ Expr.RunAll text (placed t.groups segments) i saves j := by
  induction segments generalizing s t es with
  | nil =>
      cases hs
      exact ⟨t, [], h, (List.append_nil es).symm ▸ hmeans, fun _ _ _ _ => Iff.rfl⟩
  | cons segment segments ih =>
      obtain ⟨hsegment, hsegments⟩ := List.forall_mem_cons.1 hstands
      obtain ⟨hplain, hplains⟩ := List.forall_mem_cons.1 hplain
      rw [assemble_cons, feedAll_append] at hs
      obtain ⟨v, hfirst, hs⟩ := bind_eq_ok.1 hs
      obtain ⟨w, first, hw, hgroups, hmeans, hrow⟩ :=
        means_of_segment hsegment hplain h hmeans hfirst
      obtain ⟨t', rest, ht', hmeans', hrun⟩ := ih hsegments hplains hw hmeans hs
      refine ⟨t', first ++ rest, ht', List.append_assoc es first rest ▸ hmeans', ?_⟩
      intro text i saves j
      rw [Expr.runAll_append, placed, Expr.RunAll]
      simp only [hrun, hgroups, ← hrow, Expr.run_row]

/-- **The assembled expression runs as its segments do, one after the other.** -/
theorem run_of_segments {search : Regex} (hstands : ∀ segment ∈ segments, segment.Stands)
    (hplain : ∀ segment ∈ segments, segment.isPlaceholder = false → segment.IsPlain)
    (hsearch : Regex.compile (assemble segments) = .ok search) (text : List Char) (i : Nat)
    (saves : List Save) (j : Nat) :
    search.expr.Run text i saves j ↔ Expr.RunAll text (placed 0 segments) i saves j := by
  obtain ⟨s, p, accepted⟩ := exists_accepted hsearch
  obtain ⟨t, es, ht, hmeans, hrun⟩ := means_of_segments hstands hplain resting_start.ready
    (Level.Means.opened 0) accepted.alone.feed
  obtain rfl := ht.settled
  obtain ⟨flags, hmeaning⟩ := accepted.meaning
  rw [← accepted.alone.close] at hmeaning
  rw [(hmeans.close hmeaning).1, Expr.run_row, List.nil_append]
  exact hrun text i saves j

end ParamTemplate.Template
