/-
**The numbers of the groups of placeholders.**

Each placeholder is put in a group of its own.  The number that it is given is found by counting the
groups of the segments before it, as far as these are accepted on their own.  The number that counts
is the one that the parenthesis gets when the assembled expression is read: it is numbered behind
the groups that were opened before it.

The two agree if and only if as many groups are opened before the parenthesis as were counted.  If
the segments before it stand on their own, they agree if and only if each of these keeps the groups
that are written in it; groups are lost where they are repeated zero times.  Parts of an expression
that do not stand on their own may go wrong in other ways: a group may be opened in one literal and
closed in another one, and the parenthesis may stand in a bracket or in a comment.

Main definition:

* `Regex.Pattern.Opens` — a group with a number is opened at a place.

Main results:

* `Template.opens_of_stands` — behind segments that stand on their own, a placeholder opens a group;
* `Template.index_opens_iff` — **when the number of a placeholder is that of its own group**;
* `Template.exists_wrong_index` — a template in which it is the number of another group.
-/

import ParamTemplate.Proofs.Template.Anchoring
import ParamTemplate.Proofs.Template.Assembling
import ParamTemplate.Proofs.Template.Values

set_option autoImplicit false

namespace ParamTemplate

/-! ### Places and numbers -/

namespace Regex

/-- **Whether a group with a number is opened at a place** of an expression. -/
def Pattern.Opens (p : Pattern) (place : Position) (number : Nat) : Prop :=
  (place, number) ∈ p.groupMarks

instance (p : Pattern) (place : Position) (number : Nat) : Decidable (p.Opens place number) :=
  inferInstanceAs (Decidable (_ ∈ _))

/-- In a list that is numbered in the order of its places, the number at a place is found by
counting what is before it. -/
theorem mem_iff_of_numbered {marks : List (Nat × Nat)} {start place number : Nat}
    (numbers : marks.map Prod.snd = List.range' start marks.length)
    (places : (marks.map Prod.fst).Pairwise (· < ·)) :
    (place, number) ∈ marks ↔ place ∈ marks.map Prod.fst ∧
      number = start + (marks.filter fun mark => mark.1 < place).length := by
  induction marks generalizing start with
  | nil => simp
  | cons mark marks ih =>
      obtain ⟨first, n⟩ := mark
      rw [List.map_cons, List.length_cons, List.range'_succ, List.cons.injEq] at numbers
      obtain ⟨rfl, numbers⟩ := numbers
      obtain ⟨later, places⟩ := List.pairwise_cons.1 places
      dsimp only at later
      have rest := ih numbers places
      rw [List.mem_cons, List.map_cons, List.mem_cons, List.filter_cons]
      by_cases hplace : place = first
      · -- Nothing is before the first place, and it does not come again.
        subst hplace
        have absent : place ∉ marks.map Prod.fst := fun h => Nat.lt_irrefl _ (later place h)
        have before : marks.filter (fun mark => mark.1 < place) = [] := by
          refine List.filter_eq_nil_iff.2 fun mark hmark h => ?_
          exact Nat.lt_asymm (of_decide_eq_true h) (later mark.1 (List.mem_map_of_mem hmark))
        simp [before, rest, absent]
      · have other : (place, number) ≠ (first, n) := fun h => hplace (congrArg Prod.fst h)
        rw [or_iff_right other, or_iff_right hplace, rest]
        refine and_congr_right fun h => ?_
        rw [if_pos (decide_eq_true (later place h)), List.length_cons, Nat.add_right_comm,
          Nat.add_assoc]

namespace Reader.Alone

variable {text : List Char} {s : Reader} {p : Pattern} {place : Position} {number : Nat}

/-- **The number of a group is found by counting** the groups that are opened before it. -/
theorem opens_iff (h : Alone text s p) : p.Opens place number ↔ (∃ number, p.Opens place number) ∧
    number = 1 + (p.groupMarks.filter fun mark => mark.1 < place).length := by
  have numbers := h.numbers
  rw [← h.length_marks] at numbers
  have counted := fun number : Nat => @mem_iff_of_numbered _ _ place number numbers h.places
  constructor
  · intro hopens
    exact ⟨⟨number, hopens⟩, ((counted number).1 hopens).2⟩
  · rintro ⟨⟨other, hother⟩, hnumber⟩
    exact (counted number).2 ⟨((counted other).1 hother).1, hnumber⟩

/-- At each place one group is opened at most. -/
theorem opens_unique (h : Alone text s p) {number' : Nat} (hn : p.Opens place number)
    (hn' : p.Opens place number') : number = number' :=
  (h.opens_iff.1 hn).2.trans (h.opens_iff.1 hn').2.symm

/-- What is opened on the way is there in the end. -/
theorem opens_of_feedAll (h : Alone text s p) {u : Reader} {rest : List Char} (hu : u.Fits)
    (hrest : u.feedAll rest = .ok s) (hmark : (place, number) ∈ u.outline.marks) :
    p.Opens place number := by
  have moves := (feedAll_reads hu hrest).moves.trans h.settled_moves
  obtain ⟨-, later, hmarks, -⟩ := marks_of_moves moves
  change (place, number) ∈ p.groupMarks
  rw [← h.marks]
  exact hmarks ▸ List.mem_append_left later hmark

end Reader.Alone

end Regex

namespace Template

open Regex Regex.Reader

/-! ### Placeholders -/

variable {segment : Segment} {segments before after : List Segment}

/-- **Behind segments that stand on their own, a placeholder opens a group,** which gets the number
after those that are written before it. -/
theorem opens_of_stands (hstands : ∀ earlier ∈ before, earlier.Stands)
    (hplaceholder : segment.isPlaceholder) {regex : Regex}
    (hregex : Regex.compile segment.body = .ok regex) {s : Reader} {p : Pattern}
    (ha : Alone (assemble (before ++ segment :: after)) s p) :
    p.Opens (assemble before).length (written before + 1) := by
  obtain ⟨u, q, hu⟩ := exists_accepted hregex
  have hfeed := ha.feed
  have split : assemble (before ++ segment :: after) =
      assemble before ++ '(' :: (segment.body ++ ')' :: assemble after) := by
    simp [assemble, Segment.source, hplaceholder]
  rw [split, feedAll_append] at hfeed
  obtain ⟨v, hbefore, hfeed⟩ := bind_eq_ok.1 hfeed
  obtain ⟨t, ht, hpos, hgroups, hstack⟩ := ready_of_segments hstands resting_start.ready hbefore
  obtain ⟨w, hw, hopen⟩ := ht.resting.feed_parenthesis
  rw [feedAll_cons, ht.feed '(' (by decide) (by decide), hw] at hfeed
  replace hfeed : w.feedAll (segment.body ++ ')' :: assemble after) = .ok s := hfeed
  -- The parenthesis is not followed by a question mark, for the expression of the placeholder does
  -- not begin with one.
  have same : w.feedAll (segment.body ++ ')' :: assemble after) =
      t.afterParenthesis.feedAll (segment.body ++ ')' :: assemble after) := by
    cases hbody : segment.body with
    | nil => rw [List.nil_append, feedAll_cons, feedAll_cons, hopen _ (by decide)]
    | cons c body =>
        obtain ⟨x, hx, -⟩ := bind_eq_ok.1 (hbody ▸ hu.alone.feed)
        rw [List.cons_append, feedAll_cons, feedAll_cons, hopen c (head_of_feed hx).1]
  rw [same] at hfeed
  refine ha.opens_of_feedAll (u := t.afterParenthesis) ht.resting.brackets hfeed ?_
  have pos : (assemble before).length = t.pos := by
    rw [hpos]
    exact (Nat.zero_add _).symm
  have groups : written before = t.groups := by
    rw [hgroups]
    exact (Nat.zero_add _).symm
  rw [pos, groups]
  simp [Outline.marks, outline, afterParenthesis, openNumbered, openGroup, OpenGroup.marks,
    GroupKind.marks, Span.ofChar, Mode.held]

section

variable {input : List Char} {template : Template}

/-- What is counted in a segment is counted in its expression on its own. -/
theorem groupCount?_of_compile (h : compile input = .ok template)
    (hsegment : segment ∈ template.segments) :
    segment.groupCount? = Regex.groupCount? segment.body := by
  obtain ⟨-, -, hsegments, -⟩ := accepted_of_compile h
  exact Segment.groupCount?_of_mem (hsegments ▸ hsegment)

/-- The expression of a placeholder is accepted on its own. -/
theorem exists_compile_of_isPlaceholder (h : compile input = .ok template)
    (hsegment : segment ∈ template.segments) (hkind : segment.isPlaceholder) :
    ∃ regex, Regex.compile segment.body = .ok regex := by
  obtain ⟨-, -, -, herror⟩ := accepted_of_compile h
  exact Segment.exists_compile_of_error? (groupCount?_of_compile h hsegment)
    (herror segment hsegment) hkind

/-- A placeholder has the number of the group that was opened for it if and only if the segments
before it keep their groups. -/
theorem index?_eq_iff (h : compile input = .ok template) {k : Nat}
    (hk : template.segments[k]? = some segment) (hkind : segment.isPlaceholder) :
    segment.index? = some (written (template.segments.take k) + 1) ↔
      ∀ earlier ∈ template.segments.take k, earlier.width = earlier.written := by
  obtain ⟨-, -, hsegments, -⟩ := accepted_of_compile h
  rw [Segment.index?_of_getElem? hsegments.symm hk hkind, ← sum_width_eq_written_iff
    fun earlier hearlier => groupCount?_of_compile h (List.mem_of_mem_take hearlier),
    Option.some.injEq, Nat.add_comm, Nat.add_right_cancel_iff]

/-- Where the parenthesis stands that is written in front of a segment, if it is a placeholder. -/
def parenthesis (template : Template) (k : Nat) : Position :=
  (assemble (template.segments.take k)).length

/-- The parenthesis of a placeholder opens a group, behind segments that stand on their own. -/
theorem opens_parenthesis (h : compile input = .ok template) {k : Nat}
    (hk : template.segments[k]? = some segment) (hkind : segment.isPlaceholder)
    (hstands : ∀ earlier ∈ template.segments.take k, earlier.Stands) {s : Reader} {p : Pattern}
    (hs : Alone template.source s p) :
    p.Opens (template.parenthesis k) (written (template.segments.take k) + 1) := by
  obtain ⟨regex, hregex⟩ := exists_compile_of_isPlaceholder h (List.mem_of_getElem? hk) hkind
  have split : template.source = assemble (template.segments.take k ++
      segment :: template.segments.drop (k + 1)) :=
    congrArg assemble (eq_take_append hk)
  exact opens_of_stands hstands hkind hregex (split ▸ hs)

/-- Between the ends of the text, a group keeps its number, and its place moves by what is written
in front. -/
theorem opens_tie_iff {p q : Pattern} (h : q.groupMarks = p.groupMarks) {length number : Nat}
    {place : Position} :
    (tie q length).Opens (wrapper.offset + place) number ↔ p.Opens place number := by
  unfold Pattern.Opens
  rw [groupMarks_tie, h]
  constructor
  · intro hmem
    obtain ⟨⟨place', number'⟩, hmark, heq⟩ := List.mem_map.1 hmem
    obtain ⟨hplace, rfl⟩ := Prod.mk.inj heq
    obtain rfl := Nat.add_left_cancel hplace
    exact hmark
  · exact fun hmark => List.mem_map.2 ⟨_, hmark, rfl⟩

/-- **When the number of a placeholder is that of its own group.**  It is if and only if the
parenthesis of the placeholder opens a group and as many groups are opened before it as were
counted.  Behind segments that stand on their own, it is if and only if all of these keep their
groups.  Then it is the number of this group between the two ends of the text, too, so that what the
placeholder is given is what its own group holds. -/
theorem index_opens_iff (h : compile input = .ok template) {k index : Nat}
    (hk : template.segments[k]? = some segment) (hindex : segment.index? = some index) :
    ∃ p q, Pattern.read template.source = .ok p ∧ Pattern.read template.whole.source = .ok q ∧
      (p.Opens (template.parenthesis k) index ↔
        (∃ number, p.Opens (template.parenthesis k) number) ∧
          (p.groupMarks.filter fun mark => mark.1 < template.parenthesis k).length =
            ((template.segments.take k).map Segment.width).sum) ∧
      ((∀ earlier ∈ template.segments.take k, earlier.Stands) →
        (p.Opens (template.parenthesis k) index ↔
          ∀ earlier ∈ template.segments.take k, earlier.width = earlier.written)) ∧
      (p.Opens (template.parenthesis k) index → ∀ number,
        q.Opens (wrapper.offset + template.parenthesis k) number ↔ number = index) ∧
      ∀ text parameters name, template.parameters? text = some parameters →
        segment.name? = some name →
          template.Gives text k name (parameters.captures.group? index) := by
  obtain ⟨hsearch, hwhole, hsegments, -⟩ := accepted_of_compile h
  obtain ⟨s, p, q, e, forms⟩ := exists_forms hsearch hwhole
  obtain ⟨length, hq⟩ := forms.read
  have hs := forms.alone
  have hkind := isPlaceholder_of_index? hindex
  refine ⟨p, tie q length, (hs.accepted hsearch).read, hq, ?_, fun hstands => ?_,
    fun hopens number => ?_, fun text parameters name hparameters hname => ?_⟩
  · have counted : index = 1 + ((template.segments.take k).map Segment.width).sum :=
      Option.some.inj (hindex.symm.trans
        (Segment.index?_of_getElem? hsegments.symm hk hkind))
    rw [hs.opens_iff, counted, Nat.add_left_cancel_iff, eq_comm (a := List.sum _)]
  · have hopens := opens_parenthesis h hk hkind hstands hs
    rw [← index?_eq_iff h hk hkind, hindex, Option.some.injEq]
    constructor
    · exact fun hindex => hs.opens_unique hindex hopens
    · rintro rfl
      exact hopens
  · rw [opens_tie_iff forms.groupMarks]
    constructor
    · exact fun hnumber => hs.opens_unique hnumber hopens
    · rintro rfl
      exact hopens
  · have value : parameters.value? segment = parameters.captures.group? index := by
      rw [Parameters.value?, hindex, Option.bind_some]
    exact value ▸ gives_of_parameters? hparameters hk hname

/-- The group of the only placeholder behind a group has the number 2, and the placeholder has this
number. -/
theorem index_opens_of_group : ∃ template, compile "(a){{n,b}}".toList = .ok template ∧
    ∃ segment ∈ template.segments[1]?, segment.index? = some 2 ∧
      ∃ p, Pattern.read template.source = .ok p ∧ p.Opens (template.parenthesis 1) 2 := by
  obtain ⟨template, h, segment, hk, hindex, hstands⟩ :
      ∃ template, compile "(a){{n,b}}".toList = .ok template ∧
        ∃ segment ∈ template.segments[1]?, segment.index? = some 2 ∧
          ∀ earlier ∈ template.segments.take 1, earlier.IsPlain ∧ earlier.width = earlier.written :=
    exists_eq_ok (by decide +kernel)
  obtain ⟨p, q, hp, -, -, hopens, -⟩ := index_opens_iff h hk hindex
  exact ⟨template, h, segment, hk, hindex, p, hp,
    (hopens fun earlier hearlier => (hstands earlier hearlier).1.stands).2 fun earlier hearlier =>
      (hstands earlier hearlier).2⟩

/-- **A group may be opened in one literal and closed in another one.**  Then neither literal is
accepted on its own, the group is not counted, and a placeholder behind it is given the value of
another one. -/
theorem exists_wrong_index : ∃ template, compile "({{a,x}}){{b,y}}".toList = .ok template ∧
    (∃ segment ∈ template.segments[3]?, segment.index? = some 2 ∧
      ∃ p ∈ (Pattern.read template.source).toOption,
        p.Opens (template.parenthesis 3) 3 ∧ ¬p.Opens (template.parenthesis 3) 2) ∧
    ∃ parameters ∈ template.parameters? "xy".toList,
      parameters.get? "b".toList = some "x".toList ∧
      parameters.captures.group? 3 = some "y".toList :=
  exists_eq_ok (by decide +kernel)

end

end Template

end ParamTemplate
