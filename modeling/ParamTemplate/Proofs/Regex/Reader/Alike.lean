/-
**Operations that come to the same.**

Two readers are alike if of their states the same is left, when the groups of the first one are
renumbered.  The operations of the reader are gone through one by one: each comes to states that are
alike again, or to nothing in both readers.  Complaints are not compared, since they name places.

Only two operations have a condition.  A numbered group that is opened has to keep its number, and
the name of a group may be taken in the first reader only if it may be in the other one.

Main definitions:

* `Regex.Reader.Alike` — of two states the same is left;
* `Regex.Reader.ComeAlike` — two operations come to the same, or both to nothing.

Main results:

* `Regex.Reader.comeAlike_of_strip` — it is enough to know of an operation what it does to what is
  left of a state;
* `Regex.Reader.settle_strip`, `Regex.Reader.take_strip` — **the steps of the reader** from what is
  left of a state.
-/

import ParamTemplate.Proofs.Regex.Reader.Stripped
import ParamTemplate.Proofs.Regex.Renumbering

set_option autoImplicit false

namespace ParamTemplate.Regex

namespace Reader

/-- **Whether of two states the same is left,** when the groups of the first one are renumbered. -/
structure Alike (r : Recount) (s s' : Reader) : Prop where
  verbose : s'.verbose = s.verbose
  comment : s'.comment = s.comment
  groups : s'.groups = r.count s.groups
  level : s'.level.strip .all = s.level.strip r
  stack : s'.stack.map (·.strip .all) = s.stack.map (·.strip r)
  brackets : s'.brackets.map OpenBracket.strip = s.brackets.map OpenBracket.strip
  mode : s'.mode.strip .all = s.mode.strip r

/-- **Whether two operations come to the same,** or both to nothing. -/
def ComeAlike (r : Recount) (x x' : Except Complaint Reader) : Prop :=
  x'.toOption.map (strip .all) = x.toOption.map (strip r)

variable {r : Recount} {s s' t t' : Reader}

theorem alike_iff : Alike r s s' ↔ s'.strip .all = s.strip r := by
  constructor
  · intro h
    simp only [strip, h.verbose, h.comment, h.groups, h.level, h.stack, h.brackets, h.mode,
      Recount.count_all]
  · intro h
    injection h with _ hverbose hcomment hgroups _ hlevel hstack hbrackets hmode
    exact ⟨hverbose, hcomment, hgroups, hlevel, hstack, hbrackets, hmode⟩

theorem alike_strip (r : Recount) (s : Reader) : Alike r s (s.strip r) :=
  alike_iff.2 (strip_strip r s)

namespace ComeAlike

variable {x x' y y' : Except Complaint Reader}

theorem ok (h : Alike r s s') : ComeAlike r (.ok s) (.ok s') := congrArg some (alike_iff.1 h)

theorem refuse {fault fault' : Fault} {span span' : Span} {earlier earlier' : Option Span} :
    ComeAlike r (refuse fault span earlier) (refuse fault' span' earlier') := rfl

theorem ite {condition : Prop} [Decidable condition] (hx : ComeAlike r x x')
    (hy : ComeAlike r y y') :
    ComeAlike r (if condition then x else y) (if condition then x' else y') := by
  split
  · exact hx
  · exact hy

/-- Two steps, of which the first one finds something of which the same is left. -/
theorem bind {α β : Type} {a a' : Except Complaint α} {left left' : α → β}
    {f f' : α → Except Complaint Reader} (h : a'.toOption.map left' = a.toOption.map left)
    (hf : ∀ a a', left' a' = left a → ComeAlike r (f a) (f' a')) :
    ComeAlike r (a >>= f) (a' >>= f') := by
  cases a with
  | error => cases a' with
    | error => rfl
    | ok => cases h
  | ok a => cases a' with
    | error => cases h
    | ok a' => exact hf a a' (Option.some.inj h)

theorem exists_ok (h : ComeAlike r x x') (ht : x = .ok t) : ∃ t', x' = .ok t' ∧ Alike r t t' := by
  subst ht
  cases x' with
  | error => cases h
  | ok t' => exact ⟨t', rfl, alike_iff.2 (Option.some.inj h)⟩

end ComeAlike

/-- An operation comes to the same from two states if it does from what is left of them. -/
theorem comeAlike_of_strip (op : Reader → Except Complaint Reader)
    (h : Alike r s s') (hs : ComeAlike r (op s) (op (s.strip r)))
    (hs' : ComeAlike .all (op s') (op (s'.strip .all))) : ComeAlike r (op s) (op s') := by
  rw [alike_iff.1 h] at hs'
  exact hs'.symm.trans hs

end Reader

/-! ### Parts of a state -/

section

variable {r : Recount}

theorem Atom.strip_toPattern (atom : Atom) :
    atom.toPattern.strip r.number = atom.strip.toPattern := by
  cases atom <;> rfl

theorem Atom.strip_toBracket (atom : Atom) :
    atom.toBracket.toOption.map (·.relabel .nowhere) = atom.strip.toBracket.toOption := by
  cases atom <;> rfl

theorem Atom.strip_toRangeEnd (atom : Atom) :
    atom.toRangeEnd.toOption.map (·.relabel .nowhere) = atom.strip.toRangeEnd.toOption := by
  cases atom <;> rfl

theorem Pattern.isRepeatable_strip (kept : Nat → Option Nat) (p : Pattern) :
    (p.strip kept).isRepeatable = p.isRepeatable := by
  cases p <;> rfl

theorem Row.strip_close (row : Row) : row.close.strip r.number = (row.strip r).close := by
  obtain ⟨span, items⟩ := row
  match items with
  | [] => rfl
  | [item] => rfl
  | item :: item' :: items =>
      simp only [close, strip, List.map_cons, Pattern.strip, Pattern.stripAll_eq_map,
        List.map_reverse]

/-- What is left of a level is closed alike. -/
theorem Level.strip_close (level : Level) (stop : Position) :
    (level.close stop).strip r.number = match level.strip r with
      | ⟨_, items, []⟩ => Row.close ⟨⟨0, 0⟩, items⟩
      | ⟨_, items, rows⟩ => .choice ⟨0, 0⟩ ((⟨⟨0, 0⟩, items⟩ :: rows).reverse.map Row.close) := by
  obtain ⟨start, items, rows⟩ := level
  cases rows with
  | nil => exact Row.strip_close ⟨⟨start, stop⟩, items⟩
  | cons row rows =>
      simp only [close, Pattern.strip, Pattern.stripAll_eq_map, List.map_map, List.map_reverse,
        strip, List.map_cons, Function.comp_def, Row.strip_close]
      rfl

theorem Number.strip_value (number : Number) (stop : Position) :
    (number.value stop).mapError Complaint.strip =
      (number.strip.value 0).mapError Complaint.strip := by
  cases number with
  | blank => rfl
  | digits start ds =>
      unfold Number.value Number.strip
      dsimp only
      split <;> rfl

theorem Number.strip_continues (number : Number) (c : Char) :
    number.strip.continues c = number.continues c := by
  cases number <;> rfl

theorem Number.strip_feed (number : Number) (pos : Position) (c : Char) :
    (number.feed pos c).strip = (number.strip.feed 0 c).strip := by
  unfold Number.feed
  cases number <;> split <;> rfl

theorem BracketUnion.strip_close (union : BracketUnion) :
    union.close.relabel .nowhere = union.strip.close := by
  obtain ⟨span, items⟩ := union
  match items with
  | [] => rfl
  | [item] => rfl
  | item :: item' :: items =>
      simp only [close, strip, List.map_cons, Bracket.relabel, Bracket.relabelAll_eq_map,
        List.map_reverse]
      rfl

/-- The content of a bracket without places. -/
theorem OpenBracket.strip_content (bracket : OpenBracket) :
    bracket.content.relabel .nowhere = match bracket.strip.pending with
      | none => bracket.strip.union.close
      | some (op, left) => .op ⟨0, 0⟩ op left bracket.strip.union.close := by
  obtain ⟨span, negated, pending, union, rangeStart⟩ := bracket
  cases pending with
  | none => exact BracketUnion.strip_close union
  | some pending =>
      simp only [content, strip, Option.map_some, Bracket.relabel, BracketUnion.strip_close]
      rfl

end

namespace Reader

variable {r : Recount} {s s' t t' : Reader}

namespace Alike

theorem pass {mode mode' : Mode} (h : Alike r s s') (hmode : mode'.strip .all = mode.strip r) :
    Alike r (s.pass mode) (s'.pass mode') := { h with mode := hmode }

theorem push {item item' : Pattern} (h : Alike r s s')
    (hitem : item'.strip Recount.all.number = item.strip r.number) :
    Alike r (s.push item) (s'.push item') := by
  have strip_push : ∀ (r : Recount) (level : Level) (item : Pattern),
      (level.push item).strip r = (level.strip r).push (item.strip r.number) := fun _ _ _ => rfl
  refine { h with level := ?_, mode := rfl }
  rw [Reader.push, Reader.push, strip_push, strip_push, h.level, hitem]

theorem cases_brackets (h : Alike r s s') : (s.brackets = [] ∧ s'.brackets = []) ∨
    ∃ bracket bracket' outer outer', s.brackets = bracket :: outer ∧
      s'.brackets = bracket' :: outer' ∧ bracket'.strip = bracket.strip ∧
        outer'.map OpenBracket.strip = outer.map OpenBracket.strip := by
  have same := h.brackets
  cases hs : s.brackets with
  | nil =>
      rw [hs] at same
      exact .inl ⟨rfl, List.map_eq_nil_iff.1 same⟩
  | cons bracket outer =>
      rw [hs] at same
      obtain ⟨bracket', outer', hs', hbracket, houter⟩ := List.map_eq_cons_iff.1 same
      exact .inr ⟨bracket, bracket', outer, outer', rfl, hs', hbracket, houter⟩

/-- Brackets alike are both inside a range, with starts alike, or both are not. -/
theorem cases_rangeStart {bracket bracket' : OpenBracket} (h : bracket'.strip = bracket.strip) :
    (bracket.rangeStart = none ∧ bracket'.rangeStart = none) ∨
      ∃ lo lo', bracket.rangeStart = some lo ∧ bracket'.rangeStart = some lo' ∧
        lo'.strip = lo.strip := by
  have range : bracket'.rangeStart.map Atom.strip = bracket.rangeStart.map Atom.strip :=
    congrArg OpenBracket.rangeStart h
  cases hlo : bracket.rangeStart with
  | none =>
      rw [hlo, Option.map_none, Option.map_eq_none_iff] at range
      exact .inl ⟨rfl, range⟩
  | some lo =>
      rw [hlo] at range
      obtain ⟨lo', hlo', hstrip⟩ := Option.map_eq_some_iff.1 range
      exact .inr ⟨lo, lo', rfl, hlo', hstrip⟩

theorem pushBracket {item item' : Bracket} (h : Alike r s s')
    (hitem : item'.relabel .nowhere = item.relabel .nowhere) :
    Alike r (s.pushBracket item) (s'.pushBracket item') := by
  rcases h.cases_brackets with ⟨hs, hs'⟩ | ⟨bracket, bracket', outer, outer', hs, hs', hb, houter⟩
  · simp only [Reader.pushBracket, hs, hs']
    exact { h with brackets := rfl, mode := rfl }
  · simp only [Reader.pushBracket, hs, hs']
    refine { h with brackets := ?_, mode := rfl }
    have strip_push : ∀ (bracket : OpenBracket) (item : Bracket), (bracket.push item).strip =
        { bracket.strip with
          union := ⟨⟨0, 0⟩, item.relabel .nowhere :: bracket.strip.union.items⟩
          rangeStart := none } := fun _ _ => rfl
    rw [List.map_cons, List.map_cons, strip_push, strip_push, hb, hitem, houter]

theorem closeRange {lo lo' hi hi' : Atom} (h : Alike r s s') (hlo : lo'.strip = lo.strip)
    (hhi : hi'.strip = hi.strip) : ComeAlike r (s.closeRange lo hi) (s'.closeRange lo' hi') := by
  refine .bind (by rw [Atom.strip_toRangeEnd, Atom.strip_toRangeEnd, hlo]) fun lit lit' hlit => ?_
  refine .bind (by rw [Atom.strip_toRangeEnd, Atom.strip_toRangeEnd, hhi]) fun last last' hlast => ?_
  obtain ⟨span, char, isByte⟩ := lit
  obtain ⟨span', char', isByte'⟩ := lit'
  obtain ⟨stop, final, ends⟩ := last
  obtain ⟨stop', final', ends'⟩ := last'
  cases hlit
  cases hlast
  exact .ite (.ok (h.pushBracket rfl)) .refuse

theorem deliver {atom atom' : Atom} (h : Alike r s s') (hatom : atom'.strip = atom.strip) :
    ComeAlike r (s.deliver atom) (s'.deliver atom') := by
  rcases h.cases_brackets with ⟨hs, hs'⟩ | ⟨bracket, bracket', outer, outer', hs, hs', hb, houter⟩
  · simp only [Reader.deliver, hs, hs']
    refine .ok (h.push ?_)
    rw [Atom.strip_toPattern, Atom.strip_toPattern, hatom]
  · have brackets := h.brackets
    rw [hs, hs'] at brackets
    unfold Reader.deliver
    rw [hs, hs']
    dsimp only
    rcases cases_rangeStart hb with ⟨hlo, hlo'⟩ | ⟨lo, lo', hlo, hlo', hstrip⟩
    · rw [hlo, hlo']
      exact .ok { h with brackets, mode := congrArg Mode.afterAtom hatom }
    · rw [hlo, hlo']
      exact h.closeRange hstrip hatom

theorem complete {atom atom' : Atom} (h : Alike r s s') (hatom : atom'.strip = atom.strip) :
    ComeAlike r (s.complete atom) (s'.complete atom') :=
  deliver { h with } hatom

/-! #### Repetitions -/

theorem takeOperand (h : Alike r s s') :
    s'.takeOperand.toOption.map (fun taken => (taken.1.strip Recount.all.number,
      taken.2.strip .all)) =
    s.takeOperand.toOption.map (fun taken => (taken.1.strip r.number, taken.2.strip r)) := by
  have level := h.level
  injection level with _ items rows
  unfold Reader.takeOperand
  cases hitems : s.level.items with
  | nil =>
      rw [hitems, List.map_nil, List.map_eq_nil_iff] at items
      rw [items]
      rfl
  | cons item rest =>
      rw [hitems] at items
      obtain ⟨item', rest', hitems', hitem, hrest⟩ := List.map_eq_cons_iff.1 items
      have repeatable : item'.isRepeatable = item.isRepeatable := by
        rw [← Pattern.isRepeatable_strip Recount.all.number item', hitem,
          Pattern.isRepeatable_strip]
      rw [hitems']
      dsimp only
      rw [repeatable]
      split
      · have alike : Alike r { s with level := { s.level with items := rest } }
            { s' with level := { s'.level with items := rest' } } := by
          refine { h with level := ?_ }
          rw [Level.strip, Level.strip, hrest, rows]
        exact congrArg some (Prod.ext hitem (alike_iff.1 alike))
      · rfl

theorem pushRepetition {body body' : Pattern} {min : Nat} {max : Option Nat} {greedy : Bool}
    (h : Alike r s s') (hbody : body'.strip Recount.all.number = body.strip r.number) :
    Alike r (s.pushRepetition body min max greedy) (s'.pushRepetition body' min max greedy) :=
  h.push (congrArg (Pattern.repetition ⟨0, 0⟩ min max greedy) hbody)

theorem pushCounted {counted counted' : Counted} {min : Nat} {max : Option Nat} {greedy : Bool}
    (h : Alike r s s') (hcounted : counted'.strip .all = counted.strip r) :
    ComeAlike r (s.pushCounted counted min max greedy)
      (s'.pushCounted counted' min max greedy) := by
  have body := congrArg Counted.body hcounted
  cases max with
  | none => exact .ok (h.pushRepetition body)
  | some n => exact .ite (.ok (h.pushRepetition body)) .refuse

theorem startRepetition {min : Nat} {max : Option Nat} (h : Alike r s s') :
    ComeAlike r (s.startRepetition min max) (s'.startRepetition min max) := by
  refine .bind h.takeOperand fun taken taken' htaken => ?_
  obtain ⟨hbody, hstate⟩ := Prod.mk.inj htaken
  refine .ok ((alike_iff.2 hstate).pass ?_)
  rw [Mode.strip, Mode.strip, hbody]

theorem startCount (h : Alike r s s') : ComeAlike r s.startCount s'.startCount := by
  refine .bind h.takeOperand fun taken taken' htaken => ?_
  obtain ⟨hbody, hstate⟩ := Prod.mk.inj htaken
  refine .ok ((alike_iff.2 hstate).pass ?_)
  rw [Mode.strip, Mode.strip, Counted.strip, Counted.strip, hbody]

theorem count_of_mapError {min min' : Except Complaint Nat}
    (h : min'.mapError Complaint.strip = min.mapError Complaint.strip) :
    min'.toOption.map id = min.toOption.map id := by
  have same : ∀ x : Except Complaint Nat,
      (x.mapError Complaint.strip).toOption = x.toOption := fun x => by cases x <;> rfl
  rw [← same min', h, same]

theorem feedAfterMinimum {counted counted' : Counted} {min min' : Except Complaint Nat} {c : Char}
    (h : Alike r s s') (hcounted : counted'.strip .all = counted.strip r)
    (hmin : min'.mapError Complaint.strip = min.mapError Complaint.strip) :
    ComeAlike r (s.feedAfterMinimum counted min c) (s'.feedAfterMinimum counted' min' c) := by
  have pass : ∀ mode : Counted → Except Complaint Nat → Mode,
      (∀ r counted min, (mode counted min).strip r =
        mode (counted.strip r) (min.mapError Complaint.strip)) →
      Alike r (s.pass (mode counted min)) (s'.pass (mode counted' min')) := by
    intro mode hmode
    refine h.pass ?_
    rw [hmode, hmode, hcounted, hmin]
  refine .ite (.ok (pass Mode.afterMinimum fun _ _ _ => rfl))
    (.ite (.ok (pass Mode.afterComma fun _ _ _ => rfl)) ?_)
  refine .bind (count_of_mapError hmin) fun n n' hn => ?_
  obtain rfl : n' = n := hn
  refine .ite (.ok (h.pass ?_)) .refuse
  rw [Mode.strip, Mode.strip, hcounted]

theorem feedAfterMaximum {counted counted' : Counted} {min max : Nat} {c : Char}
    (h : Alike r s s') (hcounted : counted'.strip .all = counted.strip r) :
    ComeAlike r (s.feedAfterMaximum counted min max c) (s'.feedAfterMaximum counted' min max c) := by
  refine .ite (.ok (h.pass ?_)) (.ite (.ok (h.pass ?_)) .refuse)
  · rw [Mode.strip, Mode.strip, hcounted]
  · rw [Mode.strip, Mode.strip, hcounted]

/-! #### Escapes -/

theorem feedEscape {start start' : Position} {c : Char} (h : Alike r s s') :
    ComeAlike r (s.feedEscape start c) (s'.feedEscape start' c) := by
  refine .ite .refuse (.ite (.ok (h.pass rfl)) (.ite (.ok (h.pass rfl)) (.ite (.ok (h.pass rfl))
    (.ite (.ok (h.pass rfl)) (.ite (.ok (h.pass rfl)) ?_)))))
  cases shortClass? c with
  | some short => exact h.complete rfl
  | none =>
      cases controlChar? c with
      | some char => exact h.complete rfl
      | none =>
          cases assertion? c with
          | some kind => exact h.complete rfl
          | none => exact .ite (h.complete rfl) .refuse

theorem feedHex {start start' : Position} {width : Nat} {c : Char} (h : Alike r s s') :
    ComeAlike r (s.feedHex start width c) (s'.feedHex start' width c) :=
  .ite (.ok (h.pass rfl)) (.ite (.ok (h.pass rfl)) .refuse)

theorem feedHexFixed {start start' digitsStart digitsStart' : Position} {width : Nat}
    {digits : List Char} {c : Char} (h : Alike r s s') :
    ComeAlike r (s.feedHexFixed start digitsStart width digits c)
      (s'.feedHexFixed start' digitsStart' width digits c) :=
  .ite (.ite (.ok (h.pass rfl)) (.ok (h.pass rfl))) .refuse

theorem finishHexFixed {start start' digitsStart digitsStart' : Position} {width : Nat}
    {digits : List Char} (h : Alike r s s') :
    ComeAlike r (s.finishHexFixed start digitsStart width digits)
      (s'.finishHexFixed start' digitsStart' width digits) := by
  unfold Reader.finishHexFixed
  cases charOfHex? digits with
  | some char => exact h.deliver rfl
  | none => exact .refuse

theorem feedHexBraced {start start' brace brace' digitsStart digitsStart' : Position}
    {digits : List Char} {c : Char} (h : Alike r s s') :
    ComeAlike r (s.feedHexBraced start brace digitsStart digits c)
      (s'.feedHexBraced start' brace' digitsStart' digits c) :=
  .ite (.ok (h.pass rfl)) (.ite (.ok (h.pass rfl)) .refuse)

theorem finishHexBraced {start start' brace brace' first first' last last' : Position}
    {digits : List Char} (h : Alike r s s') :
    ComeAlike r (s.finishHexBraced start brace first last digits)
      (s'.finishHexBraced start' brace' first' last' digits) := by
  refine .ite .refuse ?_
  cases charOfHex? digits with
  | some char => exact h.deliver rfl
  | none => exact .refuse

theorem feedProperty {start start' : Position} {negated : Bool} {c : Char} (h : Alike r s s') :
    ComeAlike r (s.feedProperty start negated c) (s'.feedProperty start' negated c) :=
  .ite (.ok (h.pass rfl)) (.ite .refuse (.ok (h.pass rfl)))

theorem feedPropertyName {start start' : Position} {negated : Bool} {name : List Char} {c : Char}
    (h : Alike r s s') :
    ComeAlike r (s.feedPropertyName start negated name c)
      (s'.feedPropertyName start' negated name c) :=
  .ite (h.complete rfl) (.ok (h.pass rfl))

theorem boundaryCount {span span' : Span} {brace brace' : Position} (h : Alike r s s') :
    ComeAlike r (s.boundaryCount span brace) (s'.boundaryCount span' brace') := by
  rcases h.cases_brackets with ⟨hs, hs'⟩ | ⟨bracket, bracket', outer, outer', hs, hs', hb, houter⟩
  · simp only [Reader.boundaryCount, hs, hs']
    exact .ok { h with brackets := rfl, mode := rfl }
  · unfold Reader.boundaryCount
    rw [hs, hs']
    dsimp only
    rcases cases_rangeStart hb with ⟨hlo, hlo'⟩ | ⟨lo, lo', hlo, hlo', hstrip⟩
    · rw [hlo, hlo']
      exact .refuse
    · rw [hlo, hlo']
      exact h.closeRange hstrip rfl

theorem feedBoundaryName {span span' : Span} {brace brace' nameStart nameStart' : Position}
    {name : List Char} {c : Char} (h : Alike r s s') :
    ComeAlike r (s.feedBoundaryName span brace nameStart name c)
      (s'.feedBoundaryName span' brace' nameStart' name c) := by
  refine .ite (.ok (h.pass rfl)) (.ite ?_ .refuse)
  cases namedBoundary? name.reverse with
  | some kind => exact h.complete rfl
  | none => exact .refuse

/-! #### Groups -/

theorem openGroup {span span' : Span} {kind kind' : GroupKind} {verbose verbose' : Bool}
    (h : Alike r s s') (hkind : kind'.strip Recount.all.number = kind.strip r.number)
    (hverbose : verbose' = verbose) :
    Alike r (s.openGroup span kind verbose) (s'.openGroup span' kind' verbose') := by
  refine { h with verbose := hverbose, level := rfl, stack := ?_, mode := rfl }
  have strip_open : ∀ (r : Recount) (s : Reader) (span : Span) (kind : GroupKind) (verbose : Bool),
      (s.openGroup span kind verbose).stack.map (·.strip r) =
        ⟨s.level.strip r, ⟨0, 0⟩, kind.strip r.number, s.verbose⟩ :: s.stack.map (·.strip r) :=
    fun _ _ _ _ _ => rfl
  rw [strip_open, strip_open, h.level, hkind, h.verbose, h.stack]

theorem openNumbered {span span' : Span} (h : Alike r s s') (hkeeps : r.Keeps s.groups) :
    Alike r (s.openNumbered span) (s'.openNumbered span') := by
  have count : Alike r { s with groups := s.groups + 1 } { s' with groups := s'.groups + 1 } :=
    { h with groups := by rw [hkeeps.count, h.groups] }
  refine count.openGroup ?_ h.verbose
  simp [GroupKind.strip, hkeeps.number, h.groups, Recount.all]

theorem closeGroup (h : Alike r s s') : ComeAlike r s.closeGroup s'.closeGroup := by
  have stack := h.stack
  unfold Reader.closeGroup
  cases hs : s.stack with
  | nil =>
      rw [hs, List.map_nil, List.map_eq_nil_iff] at stack
      rw [stack]
      exact .refuse
  | cons group outer =>
      rw [hs] at stack
      obtain ⟨group', outer', hs', hgroup, houter⟩ := List.map_eq_cons_iff.1 stack
      injection hgroup with hlevel _ hkind hverbose
      rw [hs']
      refine .ok { h with verbose := hverbose, level := ?_, stack := houter, mode := rfl }
      have strip_push : ∀ (r : Recount) (level : Level) (item : Pattern),
          (level.push item).strip r = (level.strip r).push (item.strip r.number) := fun _ _ _ => rfl
      rw [strip_push, strip_push, hlevel, Pattern.strip, Pattern.strip, hkind, Level.strip_close,
        Level.strip_close, h.level]

theorem bar (h : Alike r s s') : Alike r s.bar s'.bar := by
  have strip_bar : ∀ (r : Recount) (s : Reader),
      s.bar.level.strip r = (s.level.strip r).bar 0 0 := fun _ _ => rfl
  refine { h with level := ?_, mode := rfl }
  rw [strip_bar, strip_bar, h.level]

theorem feedGroupQuestion {span span' : Span} {c : Char} (h : Alike r s s') :
    ComeAlike r (s.feedGroupQuestion span c) (s'.feedGroupQuestion span' c) :=
  .ite .refuse (.ite (.ok (h.pass rfl)) (.ok (h.pass rfl)))

/-- The name of a group can be taken if fewer names are taken. -/
theorem feedGroupName {span span' : Span} {start start' : Position} {name : List Char} {c : Char}
    (h : Alike r s s') (hnames : s'.names.map Prod.fst ⊆ s.names.map Prod.fst)
    (hkeeps : r.KeepsBetween s.groups t.groups)
    (ht : s.feedGroupName span start name c = .ok t) :
    ∃ t', s'.feedGroupName span' start' name c = .ok t' ∧ Alike r t t' := by
  unfold Reader.feedGroupName at ht ⊢
  split at ht
  next hclose =>
    rw [if_pos hclose]
    split at ht
    · cases ht
    next hempty =>
      rw [if_neg hempty]
      split at ht
      · cases ht
      next hnone =>
        cases ht
        have keeps : r.Keeps s.groups := hkeeps _ (Nat.le_refl _) (Nat.lt_succ_self _)
        have none' : s'.names.find? (fun entry => entry.1 = name.reverse) = none := by
          simp only [List.find?_eq_none, decide_eq_true_eq] at hnone ⊢
          intro entry hentry htaken
          obtain ⟨other, hother, heq⟩ := List.mem_map.1 (hnames (List.mem_map_of_mem hentry))
          exact hnone other hother (heq.trans htaken)
        rw [none']
        refine ⟨_, rfl, ?_⟩
        have count : ∀ pos pos' names names', Alike r
            { s with pos, groups := s.groups + 1, names }
            { s' with pos := pos', groups := s'.groups + 1, names := names' } :=
          fun _ _ _ _ => { h with groups := by rw [keeps.count, h.groups] }
        refine (count ..).openGroup ?_ h.verbose
        simp [GroupKind.strip, keeps.number, h.groups, Recount.all]
  next hclose =>
    rw [if_neg hclose]
    exact ComeAlike.exists_ok (.ite (.ok (h.pass rfl)) .refuse) ht

theorem feedFlagItem {span span' : Span} {inner inner' : Position}
    {items items' : List (FlagItem × Span)} {c : Char} (h : Alike r s s')
    (hitems : items'.map Prod.fst = items.map Prod.fst) :
    ComeAlike r (s.feedFlagItem span inner items c) (s'.feedFlagItem span' inner' items' c) := by
  unfold Reader.feedFlagItem
  cases flagItem? c with
  | none => exact .refuse
  | some item =>
      have found : ∀ items : List (FlagItem × Span),
          (items.find? fun entry => entry.1 = item).map Prod.fst =
            (items.map Prod.fst).find? (· = item) := by
        intro items
        rw [List.find?_map]
        rfl
      have same := (found items').trans ((congrArg _ hitems).trans (found items).symm)
      dsimp only
      cases hfind : items.find? fun entry => entry.1 = item with
      | some entry =>
          rw [hfind] at same
          obtain ⟨entry', hfind', -⟩ := Option.map_eq_some_iff.1 same
          rw [hfind']
          exact .refuse
      | none =>
          rw [hfind, Option.map_none, Option.map_eq_none_iff] at same
          rw [same]
          refine .ok (h.pass ?_)
          have strip_flags : ∀ (r : Recount) (span : Span) (inner : Position) (place : Span)
              (items : List (FlagItem × Span)),
              (Mode.groupFlags span inner ((item, place) :: items)).strip r =
                .groupFlags ⟨0, 0⟩ 0 ((item :: items.map Prod.fst).map (·, ⟨0, 0⟩)) := by
            intro r span inner place items
            simp only [Mode.strip, List.map_cons, List.map_map]
            rfl
          rw [strip_flags, strip_flags, hitems]

theorem finishFlags {span span' : Span} {inner inner' : Position} {items : List FlagItem} {c : Char}
    (h : Alike r s s') :
    ComeAlike r (s.finishFlags span inner items c) (s'.finishFlags span' inner' items c) := by
  have verbose : (flagState .verbose items).getD s'.verbose =
      (flagState .verbose items).getD s.verbose := by rw [h.verbose]
  refine .ite (.ok (Alike.openGroup { h with } rfl verbose)) (.ite .refuse (.ok ?_))
  exact Alike.push { h with verbose } rfl

theorem feedGroupFlags {span span' : Span} {inner inner' : Position}
    {items items' : List (FlagItem × Span)} {c : Char} (h : Alike r s s')
    (hitems : items'.map Prod.fst = items.map Prod.fst) :
    ComeAlike r (s.feedGroupFlags span inner items c) (s'.feedGroupFlags span' inner' items' c) := by
  have reversed : items'.reverse.map Prod.fst = items.reverse.map Prod.fst := by
    rw [List.map_reverse, List.map_reverse, hitems]
  refine .ite ?_ (h.feedFlagItem hitems)
  match items, items' with
  | [], [] => exact h.finishFlags
  | (.negation, _) :: _, (.negation, _) :: _ => exact .refuse
  | (.flag _, _) :: _, (.flag _, _) :: _ =>
      dsimp only
      rw [reversed]
      exact h.finishFlags

/-! #### Brackets -/

theorem feedBracketOpen {start start' : Position} {negated : Bool} {union union' : BracketUnion}
    {c : Char} (h : Alike r s s') (hunion : union'.strip = union.strip) :
    Alike r (s.feedBracketOpen start negated union c)
      (s'.feedBracketOpen start' negated union' c) := by
  have strip_push : ∀ (union : BracketUnion) (item : Bracket),
      (union.push item).strip = ⟨⟨0, 0⟩, item.relabel .nowhere :: union.strip.items⟩ :=
    fun _ _ => rfl
  unfold Reader.feedBracketOpen
  split
  · exact h.pass (congrArg (Mode.bracketOpen 0 true .caret) hunion)
  · refine h.pass (congrArg (Mode.bracketOpen 0 negated _) ?_)
    rw [strip_push, strip_push, hunion]
    rfl

theorem finishBracketOpen {start start' : Position} {negated : Bool} {union union' : BracketUnion}
    (h : Alike r s s') (hunion : union'.strip = union.strip) :
    Alike r (s.finishBracketOpen start negated union)
      (s'.finishBracketOpen start' negated union') := by
  have empty : union'.items.isEmpty = union.items.isEmpty := by
    simpa [BracketUnion.strip] using congrArg (fun union => union.items.isEmpty) hunion
  have strip_cons : ∀ (bracket : OpenBracket) (brackets : List OpenBracket),
      (bracket :: brackets).map OpenBracket.strip =
        bracket.strip :: brackets.map OpenBracket.strip := fun _ _ => rfl
  unfold Reader.finishBracketOpen
  dsimp only
  rw [empty]
  refine { h with brackets := ?_, mode := rfl }
  rw [strip_cons, strip_cons, h.brackets, OpenBracket.strip, OpenBracket.strip]
  split
  · rfl
  · rw [hunion]

theorem closeBracket (h : Alike r s s') : Alike r s.closeBracket s'.closeBracket := by
  rcases h.cases_brackets with ⟨hs, hs'⟩ | ⟨bracket, bracket', outer, outer', hs, hs', hb, houter⟩
  · simpa only [Reader.closeBracket, hs, hs'] using h
  · have content : bracket'.content.relabel .nowhere = bracket.content.relabel .nowhere := by
      rw [OpenBracket.strip_content, OpenBracket.strip_content, hb]
    have negated : bracket'.negated = bracket.negated := by injection hb
    have last : outer'.isEmpty = outer.isEmpty := by
      simpa using congrArg List.isEmpty houter
    have closed : Alike r { s with pos := s.pos + 1, brackets := outer }
        { s' with pos := s'.pos + 1, brackets := outer' } := { h with brackets := houter }
    simp only [Reader.closeBracket, hs, hs', last]
    split
    · refine closed.push ?_
      rw [negated]
      exact congrArg (Pattern.bracket ⟨0, 0⟩ bracket.negated) content
    · refine closed.pushBracket ?_
      rw [negated]
      exact congrArg (Bracket.nested ⟨0, 0⟩ bracket.negated) content

theorem combineBracket (h : Alike r s s') (op : BracketOp) :
    Alike r (s.combineBracket op) (s'.combineBracket op) := by
  rcases h.cases_brackets with ⟨hs, hs'⟩ | ⟨bracket, bracket', outer, outer', hs, hs', hb, houter⟩
  · simpa only [Reader.combineBracket, hs, hs'] using h
  · have content : bracket'.content.relabel .nowhere = bracket.content.relabel .nowhere := by
      rw [OpenBracket.strip_content, OpenBracket.strip_content, hb]
    have strip_with : ∀ (bracket : OpenBracket) (span : Span),
        { bracket with pending := some (op, bracket.content), union := { span } }.strip =
          { bracket.strip with
            pending := some (op, bracket.content.relabel .nowhere)
            union := { span := ⟨0, 0⟩ } } := fun _ _ => rfl
    simp only [Reader.combineBracket, hs, hs']
    refine { h with brackets := ?_, mode := rfl }
    rw [List.map_cons, List.map_cons, strip_with, strip_with, hb, content, houter]

theorem feedBracket {c : Char} (h : Alike r s s') : Alike r (s.feedBracket c) (s'.feedBracket c) := by
  unfold Reader.feedBracket
  split
  · exact h.pass rfl
  · split
    · exact h.closeBracket
    · split
      · exact h.pass rfl
      · split
        · exact h.pass rfl
        · exact h.pass rfl

theorem feedTwin {char : Char} (h : Alike r s s') : Alike r (s.feedTwin char) (s'.feedTwin char) := by
  unfold Reader.feedTwin
  cases bracketOp? char with
  | none => exact h
  | some op => exact h.combineBracket op

theorem openRange {lo lo' : Atom} (h : Alike r s s') (hlo : lo'.strip = lo.strip) :
    Alike r (s.openRange lo) (s'.openRange lo') := by
  rcases h.cases_brackets with ⟨hs, hs'⟩ | ⟨bracket, bracket', outer, outer', hs, hs', hb, houter⟩
  · simpa only [Reader.openRange, hs, hs'] using h
  · have strip_with : ∀ (bracket : OpenBracket) (lo : Atom),
        { bracket with rangeStart := some lo }.strip =
          { bracket.strip with rangeStart := some lo.strip } := fun _ _ => rfl
    simp only [Reader.openRange, hs, hs']
    refine { h with brackets := ?_ }
    rw [List.map_cons, List.map_cons, strip_with, strip_with, hb, hlo, houter]

theorem feedRangeEnd {lo lo' : Atom} {c : Char} (h : Alike r s s') (hlo : lo'.strip = lo.strip) :
    ComeAlike r (s.feedRangeEnd lo c) (s'.feedRangeEnd lo' c) :=
  .ite (.ok ((h.openRange hlo).pass rfl)) (closeRange { h with } hlo rfl)

theorem settleDash {atom atom' : Atom} {start start' : Position} {adjacent : Bool} {c : Char}
    (h : Alike r s s') (hatom : atom'.strip = atom.strip) :
    ComeAlike r (s.settleDash atom start adjacent c) (s'.settleDash atom' start' adjacent c) := by
  refine .ite ?_ (.ok { h with mode := congrArg Mode.rangeEnd hatom })
  refine .bind (by rw [Atom.strip_toBracket, Atom.strip_toBracket, hatom]) fun item item' hitem => ?_
  have pushed := h.pushBracket hitem
  exact .ite (.ok { pushed with mode := rfl }) (.ok { pushed with mode := rfl })

end Alike

/-! ### The machine -/

/-- What is left of a state is settled alike, if a group that is opened keeps its number. -/
theorem settle_strip (r : Recount) (s : Reader) (next : Option Char)
    (hkeeps : ∀ span, s.mode = .groupOpen span → next ≠ some '?' → r.Keeps s.groups) :
    ComeAlike r (s.settle next) ((s.strip r).settle next) := by
  have h := alike_strip r s
  have moved : ∀ {mode mode' : Mode}, mode'.strip .all = mode.strip r →
      Alike r { s with mode } { s.strip r with mode := mode' } := fun hmode => { h with mode := hmode }
  have mode : (s.strip r).mode = s.mode.strip r := rfl
  unfold Reader.settle
  rw [mode]
  cases hmode : s.mode with
  | afterOperator body min max =>
      exact .ite (.ok h) (.ok (h.pushRepetition (Pattern.strip_strip_all r body)))
  | minimum counted number =>
      cases next with
      | none => exact .refuse
      | some c =>
          dsimp only [Mode.strip]
          rw [Number.strip_continues]
          refine .ite (.ok h) (.ok (moved ?_))
          rw [Mode.strip, Mode.strip, Counted.strip_strip, Number.strip_value number]
          rfl
  | afterMinimum counted min =>
      exact .ite .refuse (.ok h)
  | afterComma counted min =>
      cases next with
      | none => exact .refuse
      | some c =>
          refine .ite (.ok h) (.bind (Alike.count_of_mapError (mapError_strip_strip min)) ?_)
          intro n n' hn
          obtain rfl : n' = n := hn
          refine .ok (moved ?_)
          rw [Mode.strip, Mode.strip, Counted.strip_strip]
  | maximum counted min number =>
      have continues : next.map number.strip.continues = next.map number.continues := by
        cases next with
        | none => rfl
        | some c => exact congrArg some (number.strip_continues c)
      dsimp only [Mode.strip]
      rw [continues]
      refine .ite (.ok h) (.bind (Alike.count_of_mapError (number.strip_value s.pos).symm) ?_)
      intro n n' hn
      obtain rfl : n' = n := hn
      refine .ok (moved ?_)
      rw [Mode.strip, Mode.strip, Counted.strip_strip]
  | afterMaximum counted min max =>
      exact .ite .refuse (.ok h)
  | afterCount counted min max =>
      exact .ite (.ok h) (h.pushCounted (Counted.strip_strip r counted))
  | afterHexFixed start digitsStart width digits =>
      exact h.finishHexFixed
  | afterHexBraced start brace digitsStart digitsStop digits =>
      exact h.finishHexBraced
  | afterPropertyLetter start negated letter =>
      exact h.deliver rfl
  | afterBoundary span =>
      exact .ite (.ok h) (h.deliver rfl)
  | boundaryBrace span brace =>
      cases next with
      | none => exact .refuse
      | some c => exact .ite (.ok h) h.boundaryCount
  | groupOpen span =>
      dsimp only [Mode.strip]
      split
      · exact .ok h
      next hnext => exact .ok (h.openNumbered (hkeeps span hmode hnext))
  | groupQuestion span inner =>
      cases next with
      | none => exact .ok h
      | some c => exact .ite (.ok h) (.ok (moved rfl))
  | groupAngle span =>
      cases next with
      | none => exact .ok h
      | some c => exact .ite (.ok h) (.ok (moved rfl))
  | bracketOpen start negated stage union =>
      cases next with
      | none => exact .ok h
      | some c => exact .ite (.ok h) (.ok (h.finishBracketOpen (BracketUnion.strip_strip union)))
  | twin char start =>
      exact .ite (.ok h) (.ok (moved rfl))
  | afterAtom atom =>
      refine .ite (.ok h) (.bind ?_ fun item item' hitem => .ok (h.pushBracket hitem))
      rw [Atom.strip_toBracket, Atom.strip_toBracket, Atom.strip_strip]
  | main | escape | hex | hexFixed | hexBraced | property | propertyName | boundaryName
  | groupLetter | groupName | groupFlags | asciiName | bracket | dash | rangeEnd => exact .ok h

theorem takeMain_strip (r : Recount) (s : Reader) (c : Char) :
    ComeAlike r (s.takeMain c) ((s.strip r).takeMain c) := by
  have h := alike_strip r s
  unfold takeMain
  split
  · exact .ok (h.pass rfl)
  · exact h.closeGroup
  · exact .ok h.bar
  · exact .ok (h.pass rfl)
  · exact h.startRepetition
  · exact h.startRepetition
  · exact h.startRepetition
  · exact h.startCount
  · exact .ok (h.pass rfl)
  · exact h.complete rfl
  · exact h.complete rfl
  · exact h.complete rfl
  · exact h.complete rfl

/-- Whether a mode reads the name of a group. -/
def isGroupName : Mode → Bool
  | .groupName .. => true
  | _ => false

/-- What is left of a state takes a character in alike, unless it belongs to a name. -/
theorem take_strip (r : Recount) (s : Reader) (c : Char) (hmode : isGroupName s.mode = false) :
    ComeAlike r (s.take c) ((s.strip r).take c) := by
  have h := alike_strip r s
  have mode : (s.strip r).mode = s.mode.strip r := rfl
  unfold Reader.take
  rw [mode]
  cases hmode' : s.mode with
  | groupName span start name =>
      rw [hmode'] at hmode
      cases hmode
  | main => exact takeMain_strip r s c
  | afterOperator body min max =>
      exact .ok (Alike.pushRepetition { h with mode := Mode.strip_strip r (.afterOperator body min max) }
        (Pattern.strip_strip_all r body))
  | minimum counted number =>
      refine .ok (h.pass ?_)
      rw [Mode.strip, Mode.strip, Counted.strip_strip, number.strip_feed s.pos]
      rfl
  | afterMinimum counted min =>
      exact h.feedAfterMinimum (Counted.strip_strip r counted) (mapError_strip_strip min)
  | afterComma counted min =>
      refine .bind (Alike.count_of_mapError (mapError_strip_strip min)) fun n n' hn => ?_
      obtain rfl : n' = n := hn
      refine .ok (h.pass ?_)
      rw [Mode.strip, Mode.strip, Counted.strip_strip]
  | maximum counted min number =>
      refine .ok (h.pass ?_)
      rw [Mode.strip, Mode.strip, Counted.strip_strip, number.strip_feed s.pos]
      rfl
  | afterMaximum counted min max => exact h.feedAfterMaximum (Counted.strip_strip r counted)
  | afterCount counted min max =>
      exact Alike.pushCounted { h with mode := Mode.strip_strip r (.afterCount counted min max) }
        (Counted.strip_strip r counted)
  | escape start => exact h.feedEscape
  | hex start width => exact h.feedHex
  | hexFixed start digitsStart width digits => exact h.feedHexFixed
  | hexBraced start brace digitsStart digits => exact h.feedHexBraced
  | property start negated => exact h.feedProperty
  | propertyName start negated name => exact h.feedPropertyName
  | boundaryName span brace nameStart name => exact h.feedBoundaryName
  | groupQuestion span inner => exact h.feedGroupQuestion
  | groupAngle span => exact .refuse
  | groupLetter span letter => exact .ite (.ok (h.pass rfl)) .refuse
  | groupFlags span inner items =>
      exact h.feedGroupFlags (by rw [List.map_map]; rfl)
  | bracketOpen start negated stage union =>
      exact .ok (h.feedBracketOpen (BracketUnion.strip_strip union))
  | bracket => exact .ok h.feedBracket
  | twin char start => exact .ok h.feedTwin
  | rangeEnd atom => exact h.feedRangeEnd (Atom.strip_strip atom)
  | afterAtom atom => exact .ok (h.pass (by rw [Mode.strip, Mode.strip, Atom.strip_strip]))
  | afterBoundary | boundaryBrace | groupOpen => exact .ok (h.pass rfl)
  | afterHexFixed | afterHexBraced | afterPropertyLetter | asciiName | dash => exact .ok h

end Reader

end ParamTemplate.Regex
