/-
**Segments with fewer groups.**

The groups that are written inside of segments can lose their numbers.  If the segments stand on
their own, the expression that is assembled from them loses the same groups, and no group of a
placeholder.  So a placeholder keeps its group, under the number that is found by counting what is
left in the segments before it.

Main definitions:

* `Template.Segment.Regroups` — a segment is another one in which some groups have lost their
  numbers;
* `Template.lostUpTo` — which groups are lost up to the end of a segment.

Main results:

* `Template.Segment.Regroups.source` — behind others a segment loses the same groups;
* `Template.exists_regroups` — **what is assembled loses the groups of its segments**, and those of
  placeholders are left.
-/

import ParamTemplate.Proofs.Regex.Reader.Regrouping
import ParamTemplate.Proofs.Template.Assembling

set_option autoImplicit false

namespace ParamTemplate

namespace Regex

variable {lost lost' : Nat → Bool}

/-- How many groups are left is found by counting them in two parts. -/
theorem remaining_add {first count : Nat}
    (h : ∀ index, 0 < index → index ≤ count → lost (first + index) = lost' index) :
    remaining lost (first + count) = remaining lost first + remaining lost' count := by
  induction count with
  | zero => rfl
  | succ count ih =>
      have before := ih fun index hpos hle => h index hpos (Nat.le_succ_of_le hle)
      rw [← Nat.add_assoc, remaining, remaining, before, Nat.add_assoc,
        Nat.add_assoc first, h (count + 1) (Nat.succ_pos _) (Nat.le_refl _)]

namespace Reader

variable {s s' t u : Reader} {text text' : List Char} {p : Pattern}

/-- What stands behind others is read as it is read on its own. -/
theorem Ready.exists_feedAll_on (h : s.Ready t) (ha : Alone text u p)
    (hs : s.feedAll text = .ok s') :
    ∃ v, (({} : Reader).on t.frame).feedAll text = .ok v := by
  rw [h.resting.on_frame]
  cases text with
  | nil => exact ⟨t, rfl⟩
  | cons c text =>
      obtain ⟨v, hv, -⟩ := bind_eq_ok.1 ha.feed
      obtain ⟨hquestion, hbrace⟩ := head_of_feed hv
      rw [feedAll_cons, h.feed c hquestion hbrace, ← feedAll_cons] at hs
      exact ⟨s', hs⟩

theorem Ready.groups (h : s.Ready t) : s.groups = t.groups := by
  rw [← groups_settled, h.settled]

variable {inner : Nat → Bool}

/-- **What stands behind others loses the groups that it loses on its own.** -/
theorem Ready.regroups (h : s.Ready t) (ha : Alone text u p) (hs : s.feedAll text = .ok s')
    (hinner : Regroups inner {} text text')
    (hlost : ∀ index, 0 < index → index ≤ u.groups → lost (t.groups + index) = inner index) :
    Regroups lost s text text' := by
  obtain ⟨v, hv⟩ := h.exists_feedAll_on ha hs
  have framed : Regroups lost (({} : Reader).on t.frame) text text' :=
    hinner.on fits_start ha.feed hv hlost
  rw [h.resting.on_frame] at framed
  refine framed.of_feed_eq (fun c rest heq => ?_) fun index hfirst hlast => ?_
  · subst heq
    obtain ⟨v, hv, -⟩ := bind_eq_ok.1 ha.feed
    obtain ⟨hquestion, hbrace⟩ := head_of_feed hv
    exact h.feed c hquestion hbrace
  · rw [h.groups] at hfirst
    exact absurd hfirst (Nat.not_lt.2 hlast)

/-- **What stands in a group of its own loses the groups that it loses on its own,** and not the
group around it. -/
theorem Ready.regroups_group (h : s.Ready t) (ha : Alone text u p) (hcomment : u.comment = false)
    (hs : s.feedAll ('(' :: (text ++ [')'])) = .ok s') (hinner : Regroups inner {} text text')
    (hown : lost (t.groups + 1) = false)
    (hlost : ∀ index, 0 < index → index ≤ u.groups → lost (t.groups + 1 + index) = inner index) :
    Regroups lost s ('(' :: (text ++ [')'])) ('(' :: (text' ++ [')'])) := by
  have resting := h.resting.afterParenthesis
  have closed := (h.group ha hcomment hs).1
  rw [h.feedAll_group ha] at hs
  obtain ⟨w, hw, hs⟩ := bind_eq_ok.1 hs
  have framed : Regroups lost (({} : Reader).on t.afterParenthesis.frame) text text' :=
    hinner.on fits_start ha.feed hw hlost
  obtain ⟨x, hx, hs⟩ := bind_eq_ok.1 hs
  cases hs
  -- The parenthesis behind the text opens no group.
  have last : Regroups lost w [')'] [')'] := by
    refine .same hx (fun index hfirst hlast => ?_) (.nil _)
    rw [(feedAll_on fits_start ha.feed).eq_of_ok hw] at hfirst
    rw [closed] at hlast
    exact absurd hfirst (Nat.not_lt.2 hlast)
  have whole := framed.append hw last
  rw [resting.on_frame] at whole
  obtain ⟨y, hy, hfeed⟩ := h.resting.feed_parenthesis
  have groups : y.groups = t.groups := by
    rw [h.resting.feed '('] at hy
    cases hy
    rfl
  refine .same ((h.feed '(' (by decide) (by decide)).trans hy) (fun index hfirst hlast => ?_)
    (whole.of_feed_eq (fun c rest heq => hfeed c ?_) fun index hfirst hlast => ?_)
  · rw [h.groups] at hfirst
    rw [groups] at hlast
    exact absurd hfirst (Nat.not_lt.2 hlast)
  · cases text with
    | nil =>
        cases heq
        decide
    | cons d text =>
        obtain ⟨v, hv, -⟩ := bind_eq_ok.1 ha.feed
        cases heq
        exact (head_of_feed hv).1
  · rw [groups] at hfirst
    have own : index = t.groups + 1 := Nat.le_antisymm hlast hfirst
    rw [own, hown]

end Reader

end Regex

namespace Template

open Regex Regex.Reader

/-- How many groups a segment has around its expression. -/
def Segment.own (segment : Segment) : Nat := if segment.isPlaceholder then 1 else 0

/-- **Which groups are lost** up to the end of a segment: those before it as they were, those inside
of it as they are on their own, and none around it. -/
def lostUpTo (groups own : Nat) (before inner : Nat → Bool) (index : Nat) : Bool :=
  if index ≤ groups then before index
  else if index ≤ groups + own then false else inner (index - (groups + own))

section

variable {groups own index : Nat} {before inner : Nat → Bool}

theorem lostUpTo_of_le (h : index ≤ groups) :
    lostUpTo groups own before inner index = before index := if_pos h

theorem lostUpTo_own (h : groups < index) (h' : index ≤ groups + own) :
    lostUpTo groups own before inner index = false := by
  rw [lostUpTo, if_neg (Nat.not_le.2 h), if_pos h']

theorem lostUpTo_add (h : 0 < index) :
    lostUpTo groups own before inner (groups + own + index) = inner index := by
  rw [lostUpTo, if_neg (by omega), if_neg (by omega), Nat.add_sub_cancel_left]

end

/-- **Whether a segment is another one in which some groups have lost their numbers.** -/
structure Segment.Regroups (segment segment' : Segment) : Prop where
  name : segment'.name? = segment.name?
  body : ∃ lost, Reader.Regroups lost {} segment.body segment'.body

namespace Segment.Regroups

variable {segment segment' : Segment}

theorem isPlaceholder (h : segment.Regroups segment') :
    segment'.isPlaceholder = segment.isPlaceholder := by
  rw [Segment.isPlaceholder, Segment.isPlaceholder, h.name]

/-- What is left of the groups of a segment. -/
theorem exists_lost (h : segment.Regroups segment') {u : Reader} {p : Pattern}
    (ha : Alone segment.body u p) (hdeep : p.tooDeep? 0 = none) : ∃ lost,
      Reader.Regroups lost {} segment.body segment'.body ∧
        segment'.written = remaining lost u.groups + segment.own := by
  obtain ⟨lost, hlost⟩ := h.body
  obtain ⟨u', p', ha', hlock, huncounts⟩ := hlost.exists_alone ha
  refine ⟨lost, hlost, ?_⟩
  have hread := ha'.read ((huncounts.tooDeep?_eq_none_iff 0).2 hdeep)
  rw [Segment.written, hread, h.isPlaceholder]
  change p'.groupMarks.length + _ = _
  rw [ha'.length_marks, hlock.alike.groups]
  rfl

variable {s s' t u : Reader} {p : Pattern} {lost inner : Nat → Bool}

/-- **Behind others a segment loses the groups that it loses on its own.** -/
theorem source (hsegment : segment.Regroups segment') (h : s.Ready t) (ha : Alone segment.body u p)
    (hcomment : u.comment = false) (hs : s.feedAll segment.source = .ok s')
    (hinner : Reader.Regroups inner {} segment.body segment'.body)
    (hown : segment.isPlaceholder → lost (t.groups + 1) = false)
    (hlost : ∀ index, 0 < index → index ≤ u.groups →
      lost (t.groups + segment.own + index) = inner index) :
    Reader.Regroups lost s segment.source segment'.source := by
  unfold Segment.source at hs ⊢
  rw [hsegment.isPlaceholder]
  cases hplaceholder : segment.isPlaceholder with
  | false =>
      have none' : segment.own = 0 := by simp [Segment.own, hplaceholder]
      rw [none'] at hlost
      simp only [hplaceholder, Bool.false_eq_true, if_false] at hs ⊢
      exact h.regroups ha hs hinner hlost
  | true =>
      have one : segment.own = 1 := if_pos hplaceholder
      rw [one] at hlost
      simp only [hplaceholder, if_true] at hs ⊢
      exact h.regroups_group ha hcomment hs hinner (hown hplaceholder) hlost

end Segment.Regroups

/-- The groups that are left up to the end of a segment. -/
theorem remaining_own {lost inner : Nat → Bool} {segment : Segment} {groups count : Nat}
    (hown : segment.isPlaceholder → lost (groups + 1) = false)
    (hlost : ∀ index, 0 < index → index ≤ count →
      lost (groups + segment.own + index) = inner index) :
    remaining lost (groups + segment.own + count) =
      remaining lost groups + (remaining inner count + segment.own) := by
  have around : remaining lost (groups + segment.own) = remaining lost groups + segment.own := by
    cases hplaceholder : segment.isPlaceholder with
    | false => simp [Segment.own, hplaceholder]
    | true =>
        have one : segment.own = 1 := if_pos hplaceholder
        simp [one, remaining, hown hplaceholder]
  rw [remaining_add hlost, around, Nat.add_assoc, Nat.add_comm segment.own]

variable {s s' t : Reader} {segments segments' : List Segment}

/-- **What is assembled from segments that stand on their own loses the groups of these segments,**
behind a number of groups.  The groups of placeholders are left. -/
theorem exists_regroups_of_segments (hstands : ∀ segment ∈ segments, segment.Stands)
    (hrel : List.Forall₂ Segment.Regroups segments segments') (h : s.Ready t)
    (hs : s.feedAll (assemble segments) = .ok s') (base : Nat → Bool) :
    ∃ lost, (∀ index ≤ t.groups, lost index = base index) ∧
      Reader.Regroups lost s (assemble segments) (assemble segments') ∧
      ∀ k segment, segments[k]? = some segment → segment.isPlaceholder →
        lost (t.groups + written (segments.take k) + 1) = false ∧
          remaining lost (t.groups + written (segments.take k)) =
            remaining lost t.groups + written (segments'.take k) := by
  induction hrel generalizing s t base with
  | nil => exact ⟨base, fun _ _ => rfl, .nil s, fun _ _ hk => by cases hk⟩
  | @cons segment segment' segments segments' hsegment _ ih =>
      obtain ⟨hstand, hstands⟩ := List.forall_mem_cons.1 hstands
      obtain ⟨u, p, flags, ha, hread, -, hverbose, hwritten⟩ := hstand.exists_alone
      have hcomment := ha.comment hverbose
      obtain ⟨inner, hinner, hwritten'⟩ := hsegment.exists_lost ha (exists_alone hread).2
      rw [assemble_cons, feedAll_append] at hs
      obtain ⟨v, hv, hs⟩ := bind_eq_ok.1 hs
      obtain ⟨w, hready, -, hgroups, -⟩ :=
        ready_of_segment h ha hcomment (fun _ => hverbose) hv
      obtain ⟨lost, hbase, hregroups, hleft⟩ :=
        ih hstands hready hs (lostUpTo t.groups segment.own base inner)
      have hw : w.groups = t.groups + segment.own + u.groups := by
        rw [hgroups, Nat.add_comm u.groups, ← Nat.add_assoc]
        rfl
      have hown : segment.isPlaceholder → lost (t.groups + 1) = false := by
        intro hplaceholder
        have one : segment.own = 1 := if_pos hplaceholder
        rw [hbase _ (by omega), lostUpTo_own (by omega) (by omega)]
      have hlost : ∀ index, 0 < index → index ≤ u.groups →
          lost (t.groups + segment.own + index) = inner index := by
        intro index hpos hle
        rw [hbase _ (by omega), lostUpTo_add hpos]
      have left : remaining lost w.groups = remaining lost t.groups + segment'.written := by
        rw [hw, remaining_own hown hlost, hwritten']
      refine ⟨lost, fun index hle => ?_, ?_, fun k earlier hk hplaceholder => ?_⟩
      · rw [hbase index (by omega), lostUpTo_of_le hle]
      · rw [assemble_cons, assemble_cons]
        exact (hsegment.source h ha hcomment hv hinner hown hlost).append hv hregroups
      · cases k with
        | zero =>
            cases hk
            exact ⟨hown hplaceholder, rfl⟩
        | succ k =>
            have sum : t.groups + written ((segment :: segments).take (k + 1)) =
                w.groups + written (segments.take k) := by
              rw [hgroups, hwritten, Nat.add_assoc]
              rfl
            have sum' : written ((segment' :: segments').take (k + 1)) =
                segment'.written + written (segments'.take k) := rfl
            obtain ⟨hlost, hcount⟩ := hleft k earlier hk hplaceholder
            rw [sum, sum', hcount, left]
            exact ⟨hlost, Nat.add_assoc ..⟩

/-- **What is assembled loses the groups of its segments,** if these stand on their own.  The group
of a placeholder is left, under the number that is found by counting what is left before it. -/
theorem exists_regroups (hstands : ∀ segment ∈ segments, segment.Stands)
    (hrel : List.Forall₂ Segment.Regroups segments segments')
    (hs : feedAll {} (assemble segments) = .ok s) :
    ∃ lost, Reader.Regroups lost {} (assemble segments) (assemble segments') ∧
      ∀ k segment, segments[k]? = some segment → segment.isPlaceholder →
        (Recount.losing lost).number (written (segments.take k) + 1) =
          some (written (segments'.take k) + 1) := by
  obtain ⟨lost, -, hregroups, hleft⟩ :=
    exists_regroups_of_segments hstands hrel resting_start.ready hs fun _ => false
  refine ⟨lost, hregroups, fun k segment hk hplaceholder => ?_⟩
  obtain ⟨hlost, hcount⟩ := hleft k segment hk hplaceholder
  simp only [Nat.zero_add, remaining] at hlost hcount
  simp [Recount.losing, remaining, hlost, hcount]

end Template

end ParamTemplate
