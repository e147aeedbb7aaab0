/-
**Reading in a frame.**

What has been read before an expression is a frame around it: a number of characters and of groups,
the names that are taken, the groups that are open, and the level at which the expression continues.
A state of a reader that reads the expression on its own can be put into a frame.  All places move,
groups get other numbers, and the outermost level of the state becomes the end of the level of the
frame.

The operations of the reader come out of a frame as they go in.  Where one succeeds on its own, it
succeeds in a frame, with the state in the frame as its result; there is one exception, a group
whose name is taken by the frame.  An operation that fails on its own may succeed in a frame, a
repetition for example, which finds its operand there.

Main definitions:

* `Regex.Frame` — what was read before;
* `Regex.Reader.on` — a state in a frame.

Main results:

* `Regex.Reader.push_on`, `Regex.Reader.deliver_on`, … — the operations of the reader in a frame.
-/

import ParamTemplate.Proofs.Regex.Relabelling
import ParamTemplate.Regex.Reader

set_option autoImplicit false

namespace ParamTemplate.Regex

/-! ### Frames -/

/-- **What was read before an expression.** -/
structure Frame where
  offset : Nat
  groups : Nat
  names : List (List Char × Span)
  level : Level
  stack : List OpenGroup

/-- A part of a text, some characters further on. -/
def Span.shift (offset : Nat) (span : Span) : Span := ⟨offset + span.start, offset + span.stop⟩

/-- Other places and numbers in a frame. -/
def Frame.relabelling (f : Frame) : Relabelling where
  group := Span.shift f.offset
  span := Span.shift f.offset
  number := (f.groups + ·)

theorem Frame.number_injective (f : Frame) : Function.Injective f.relabelling.number :=
  fun _ _ h => Nat.add_left_cancel h

section

variable (f : Frame)

/-- An atom in a frame. -/
def Atom.on : Atom → Atom
  | literal lit => literal (lit.relabel f.relabelling)
  | dot span => dot (span.shift f.offset)
  | assertion span kind => assertion (span.shift f.offset) kind
  | short span kind negated => short (span.shift f.offset) kind negated
  | property span query negated => property (span.shift f.offset) query negated

/-- A sequence in a frame. -/
def Row.on (row : Row) : Row where
  span := row.span.shift f.offset
  items := row.items.map (·.relabel f.relabelling)

/-- A level inside a group, in a frame. -/
def Level.moved (level : Level) : Level where
  start := f.offset + level.start
  items := level.items.map (·.relabel f.relabelling)
  rows := level.rows.map (·.on f)

/-- Branches, the first of which is the end of the sequence at hand of another level. -/
def Level.joinRows (base : Level) : List Row → List Row
  | [] => base.rows
  | [row] => { span := ⟨base.start, row.span.stop⟩, items := row.items ++ base.items } :: base.rows
  | row :: rest => row :: joinRows base rest

/-- A level, as the end of another one. -/
def Level.join (base level : Level) : Level where
  start := if level.rows.isEmpty then base.start else level.start
  items := if level.rows.isEmpty then level.items ++ base.items else level.items
  rows := joinRows base level.rows

/-- A level in a frame; the outermost one ends the level of the frame. -/
def Level.on (outermost : Bool) (level : Level) : Level :=
  if outermost then f.level.join (level.moved f) else level.moved f

/-- A group that has not been closed, in a frame. -/
def OpenGroup.on (outermost : Bool) (group : OpenGroup) : OpenGroup where
  outer := group.outer.on f outermost
  span := group.span.shift f.offset
  kind := group.kind.relabel f.relabelling
  verbose := group.verbose

/-- The groups that have not been closed, in a frame. -/
def Frame.open : List OpenGroup → List OpenGroup
  | [] => f.stack
  | group :: stack => group.on f stack.isEmpty :: Frame.open stack

/-- The items of a bracket in a frame. -/
def BracketUnion.on (union : BracketUnion) : BracketUnion where
  span := union.span.shift f.offset
  items := union.items.map (·.relabel f.relabelling)

/-- A bracket that has not been closed, in a frame. -/
def OpenBracket.on (bracket : OpenBracket) : OpenBracket where
  span := bracket.span.shift f.offset
  negated := bracket.negated
  pending := bracket.pending.map fun p => (p.1, p.2.relabel f.relabelling)
  union := bracket.union.on f
  rangeStart := bracket.rangeStart.map (·.on f)

/-- A number of a repetition, in a frame. -/
def Number.on : Number → Number
  | blank => blank
  | digits start ds => digits (f.offset + start) ds

/-- A counted repetition, in a frame. -/
def Counted.on (counted : Counted) : Counted where
  start := f.offset + counted.start
  body := counted.body.relabel f.relabelling

/-- A complaint in a frame. -/
def Complaint.on (complaint : Complaint) : Complaint :=
  { complaint with
    span := complaint.span.shift f.offset
    earlier := complaint.earlier.map (·.shift f.offset) }

/-- A mode in a frame. -/
def Mode.on : Mode → Mode
  | main => main
  | afterOperator body min max => afterOperator (body.relabel f.relabelling) min max
  | minimum counted number => minimum (counted.on f) (number.on f)
  | afterMinimum counted min => afterMinimum (counted.on f) (min.mapError (·.on f))
  | afterComma counted min => afterComma (counted.on f) (min.mapError (·.on f))
  | maximum counted min number => maximum (counted.on f) min (number.on f)
  | afterMaximum counted min max => afterMaximum (counted.on f) min max
  | afterCount counted min max => afterCount (counted.on f) min max
  | escape start => escape (f.offset + start)
  | hex start width => hex (f.offset + start) width
  | hexFixed start digitsStart width digits =>
      hexFixed (f.offset + start) (f.offset + digitsStart) width digits
  | afterHexFixed start digitsStart width digits =>
      afterHexFixed (f.offset + start) (f.offset + digitsStart) width digits
  | hexBraced start brace digitsStart digits =>
      hexBraced (f.offset + start) (f.offset + brace) (f.offset + digitsStart) digits
  | afterHexBraced start brace digitsStart digitsStop digits =>
      afterHexBraced (f.offset + start) (f.offset + brace) (f.offset + digitsStart)
        (f.offset + digitsStop) digits
  | property start negated => property (f.offset + start) negated
  | propertyName start negated name => propertyName (f.offset + start) negated name
  | afterPropertyLetter start negated letter =>
      afterPropertyLetter (f.offset + start) negated letter
  | afterBoundary span => afterBoundary (span.shift f.offset)
  | boundaryBrace span brace => boundaryBrace (span.shift f.offset) (f.offset + brace)
  | boundaryName span brace nameStart name =>
      boundaryName (span.shift f.offset) (f.offset + brace) (f.offset + nameStart) name
  | groupOpen span => groupOpen (span.shift f.offset)
  | groupQuestion span inner => groupQuestion (span.shift f.offset) (f.offset + inner)
  | groupAngle span => groupAngle (span.shift f.offset)
  | groupLetter span letter => groupLetter (span.shift f.offset) (letter.shift f.offset)
  | groupName span start name => groupName (span.shift f.offset) (f.offset + start) name
  | groupFlags span inner items =>
      groupFlags (span.shift f.offset) (f.offset + inner)
        (items.map fun entry => (entry.1, entry.2.shift f.offset))
  | bracketOpen start negated stage union =>
      bracketOpen (f.offset + start) negated stage (union.on f)
  | asciiName start seen => asciiName (f.offset + start) seen
  | bracket => bracket
  | twin char start => twin char (f.offset + start)
  | afterAtom atom => afterAtom (atom.on f)
  | dash atom start blank hash => dash (atom.on f) (f.offset + start) blank hash
  | rangeEnd atom => rangeEnd (atom.on f)

/-- **A state in a frame.** -/
def Reader.on (s : Reader) : Reader where
  pos := f.offset + s.pos
  verbose := s.verbose
  comment := s.comment
  groups := f.groups + s.groups
  names := s.names.map (fun entry => (entry.1, entry.2.shift f.offset)) ++ f.names
  level := s.level.on f s.stack.isEmpty
  stack := f.open s.stack
  brackets := s.brackets.map (·.on f)
  mode := s.mode.on f

end

/-! ### Levels -/

section

variable {f : Frame}

theorem Pattern.span_relabel (p : Pattern) :
    (p.relabel f.relabelling).span = p.span.shift f.offset := by
  cases p <;> rfl

theorem Bracket.span_relabel (b : Bracket) :
    (b.relabel f.relabelling).span = b.span.shift f.offset := by
  cases b <;> rfl

theorem Atom.span_on (atom : Atom) : (atom.on f).span = atom.span.shift f.offset := by
  cases atom <;> rfl

theorem Atom.toPattern_on (atom : Atom) :
    (atom.on f).toPattern = atom.toPattern.relabel f.relabelling := by
  cases atom <;> rfl

theorem Pattern.isRepeatable_relabel {r : Relabelling} (p : Pattern) :
    (p.relabel r).isRepeatable = p.isRepeatable := by
  cases p <;> rfl

/-- One more item in a frame. -/
theorem Level.push_on (outermost : Bool) (level : Level) (item : Pattern) :
    (level.on f outermost).push (item.relabel f.relabelling) =
      (level.push item).on f outermost := by
  cases outermost with
  | false => rfl
  | true =>
      obtain ⟨start, items, rows⟩ := level
      cases rows <;> rfl

/-- A bar in a frame. -/
theorem Level.bar_on (outermost : Bool) (level : Level) (stop next : Position) :
    (level.on f outermost).bar (f.offset + stop) (f.offset + next) =
      (level.bar stop next).on f outermost := by
  cases outermost with
  | false => rfl
  | true =>
      obtain ⟨start, items, rows⟩ := level
      cases rows <;> rfl

/-- The sequence at hand without its last item, in a frame. -/
theorem Level.items_on (outermost : Bool) {level : Level} {item : Pattern} {items : List Pattern}
    (h : level.items = item :: items) :
    ∃ rest, (level.on f outermost).items = item.relabel f.relabelling :: rest ∧
      { level.on f outermost with items := rest } = { level with items }.on f outermost := by
  obtain ⟨start, _, rows⟩ := level
  cases h
  cases outermost with
  | false => exact ⟨_, rfl, rfl⟩
  | true => cases rows <;> exact ⟨_, rfl, rfl⟩

theorem Row.close_on (row : Row) : (row.on f).close = row.close.relabel f.relabelling := by
  obtain ⟨span, items⟩ := row
  match items with
  | [] => rfl
  | [item] => rfl
  | item :: item' :: items =>
      simp only [close, on, List.map_cons, Pattern.relabel, Pattern.relabelAll_eq_map,
        List.map_reverse]
      rfl

theorem Level.first_moved (level : Level) : (level.moved f).first = f.offset + level.first := by
  simp only [first, moved, List.getLast?_map, Option.map_map]
  cases level.rows.getLast? <;> rfl

/-- The end of a group in a frame. -/
theorem Level.close_moved (level : Level) (stop : Position) :
    (level.moved f).close (f.offset + stop) = (level.close stop).relabel f.relabelling := by
  have first := first_moved (f := f) level
  obtain ⟨start, items, rows⟩ := level
  cases rows with
  | nil => exact Row.close_on ⟨⟨start, stop⟩, items⟩
  | cons row rows =>
      have closed : ∀ rows : List Row, (rows.map (·.on f)).reverse.map Row.close =
          Pattern.relabelAll f.relabelling (rows.reverse.map Row.close) := by
        intro rows
        rw [Pattern.relabelAll_eq_map]
        simp only [List.map_reverse, List.map_map, Function.comp_def, Row.close_on]
      have whole : (Level.moved f ⟨start, items, row :: rows⟩).close (f.offset + stop) =
          .choice ⟨(Level.moved f ⟨start, items, row :: rows⟩).first, f.offset + stop⟩
            (((⟨⟨start, stop⟩, items⟩ :: row :: rows).map (·.on f)).reverse.map Row.close) := rfl
      rw [whole, closed, first]
      rfl

/-! ### Brackets -/

theorem Atom.toRangeEnd_on {atom : Atom} {lit : Literal} (h : atom.toRangeEnd = .ok lit) :
    (atom.on f).toRangeEnd = .ok (lit.relabel f.relabelling) := by
  cases atom <;> cases h
  rfl

theorem Atom.toBracket_on {atom : Atom} {item : Bracket} (h : atom.toBracket = .ok item) :
    (atom.on f).toBracket = .ok (item.relabel f.relabelling) := by
  cases atom <;> cases h <;> rfl

theorem BracketUnion.push_on (union : BracketUnion) (item : Bracket) :
    (union.on f).push (item.relabel f.relabelling) = (union.push item).on f := by
  obtain ⟨span, items⟩ := union
  cases items <;> simp only [push, on, Bracket.span_relabel] <;> rfl

theorem BracketUnion.close_on (union : BracketUnion) :
    (union.on f).close = union.close.relabel f.relabelling := by
  obtain ⟨span, items⟩ := union
  match items with
  | [] => rfl
  | [item] => rfl
  | item :: item' :: items =>
      simp only [close, on, List.map_cons, Bracket.relabel, Bracket.relabelAll_eq_map,
        List.map_reverse]
      rfl

theorem OpenBracket.push_on (bracket : OpenBracket) (item : Bracket) :
    (bracket.on f).push (item.relabel f.relabelling) = (bracket.push item).on f := by
  simp only [push, on, BracketUnion.push_on]
  rfl

theorem OpenBracket.content_on (bracket : OpenBracket) :
    (bracket.on f).content = bracket.content.relabel f.relabelling := by
  obtain ⟨span, negated, pending, union, rangeStart⟩ := bracket
  cases pending with
  | none => exact BracketUnion.close_on union
  | some pending =>
      simp only [content, on, BracketUnion.close_on, Option.map_some, Bracket.span_relabel]
      rfl

/-! ### Frames around a state -/

@[simp] theorem Reader.mode_on (s : Reader) : (s.on f).mode = s.mode.on f := rfl

@[simp] theorem Reader.verbose_on (s : Reader) : (s.on f).verbose = s.verbose := rfl

@[simp] theorem Reader.comment_on (s : Reader) : (s.on f).comment = s.comment := rfl

@[simp] theorem Reader.pos_on (s : Reader) : (s.on f).pos = f.offset + s.pos := rfl

@[simp] theorem Reader.brackets_on (s : Reader) :
    (s.on f).brackets = s.brackets.map (·.on f) := rfl

namespace Reader

variable {s t : Reader}

theorem pass_on (s : Reader) (mode : Mode) :
    (s.on f).pass (mode.on f) = (s.pass mode).on f := rfl

theorem push_on (s : Reader) (item : Pattern) :
    (s.on f).push (item.relabel f.relabelling) = (s.push item).on f := by
  simp only [push, on, Level.push_on]
  rfl

theorem pushBracket_on (s : Reader) (item : Bracket) :
    (s.on f).pushBracket (item.relabel f.relabelling) = (s.pushBracket item).on f := by
  obtain ⟨pos, verbose, comment, groups, names, level, stack, brackets, mode⟩ := s
  cases brackets with
  | nil => rfl
  | cons bracket brackets =>
      simp only [pushBracket, on, List.map_cons, OpenBracket.push_on]
      rfl

theorem closeRange_on {lo hi : Atom} (h : s.closeRange lo hi = .ok t) :
    (s.on f).closeRange (lo.on f) (hi.on f) = .ok (t.on f) := by
  obtain ⟨first, hlo, h⟩ := bind_eq_ok.1 h
  obtain ⟨last, hhi, h⟩ := bind_eq_ok.1 h
  split at h
  next hle =>
    cases h
    simp only [closeRange, Atom.toRangeEnd_on hlo, Atom.toRangeEnd_on hhi, Atom.span_on]
    exact (if_pos hle).trans (congrArg Except.ok
      (pushBracket_on s (.range ⟨lo.span.start, hi.span.stop⟩ first last)))
  · cases h

theorem deliver_on {atom : Atom} (h : s.deliver atom = .ok t) :
    (s.on f).deliver (atom.on f) = .ok (t.on f) := by
  obtain ⟨pos, verbose, comment, groups, names, level, stack, brackets, mode⟩ := s
  cases brackets with
  | nil =>
      cases h
      exact congrArg Except.ok (Atom.toPattern_on (f := f) atom ▸ push_on _ _)
  | cons bracket brackets =>
      obtain ⟨span, negated, pending, union, rangeStart⟩ := bracket
      cases rangeStart with
      | none =>
          cases h
          rfl
      | some lo => exact closeRange_on h

theorem complete_on {atom : Atom} (h : s.complete atom = .ok t) :
    (s.on f).complete (atom.on f) = .ok (t.on f) := deliver_on h

end Reader

end

end ParamTemplate.Regex
