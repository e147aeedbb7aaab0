/-
**The state of a reader of expressions.**

An expression is read by a machine that is fed one character at a time, so that reading a
concatenation is reading its parts in turn.  What the machine remembers is the place it has reached,
the groups and brackets that are open around it, and its mode: what has been seen of the part that
it is in the middle of.

Main definitions:

* `Regex.Atom` — what one character or one escape makes;
* `Regex.Level`, `Regex.OpenGroup` — the alternatives and the sequence being read, and a group that
  has not been closed;
* `Regex.OpenBracket` — a bracket that has not been closed;
* `Regex.Mode` — where in a construction the machine stands;
* `Regex.Reader` — the whole state.
-/

import ParamTemplate.Regex.Pattern
import ParamTemplate.Unicode.Basic

set_option autoImplicit false

namespace ParamTemplate.Regex

/-! ### Atoms -/

/-- What a character or an escape makes, before it is known whether it stands inside brackets. -/
inductive Atom where
  | literal (literal : Literal)
  | dot (span : Span)
  | assertion (span : Span) (kind : Assertion)
  | short (span : Span) (kind : ShortClass) (negated : Bool)
  | property (span : Span) (query : Unicode.PropertyQuery) (negated : Bool)

namespace Atom

def span : Atom → Span
  | literal lit => lit.span
  | dot span | assertion span _ | short span .. | property span .. => span

/-- The expression that an atom is outside brackets. -/
def toPattern : Atom → Pattern
  | literal lit => .literal lit
  | dot span => .dot span
  | assertion span kind => .assertion span kind
  | short span kind negated => .short span kind negated
  | property span query negated => .property span query negated

/-- The item that an atom is inside brackets; assertions are none. -/
def toBracket : Atom → Except Complaint Bracket
  | literal lit => .ok (.literal lit)
  | short span kind negated => .ok (.short span kind negated)
  | property span query negated => .ok (.property span query negated)
  | dot span | assertion span _ => .error { fault := .bracketEscapeInvalid, span }

/-- The end of a range that an atom is; only single characters are. -/
def toRangeEnd : Atom → Except Complaint Literal
  | literal lit => .ok lit
  | atom => .error { fault := .bracketRangeLiteral, span := atom.span }

end Atom

/-! ### What is open -/

/-- A sequence that has been read, with the last item first. -/
structure Row where
  span : Span
  items : List Pattern

/-- The sequence as one expression. -/
def Row.close (row : Row) : Pattern :=
  match row.items with
  | [] => .empty row.span
  | [item] => item
  | items => .sequence row.span items.reverse

/-- The innermost group, or the whole expression, as far as it has been read: the sequence at hand,
its items with the last one first, and the finished branches before it, the last one first. -/
structure Level where
  start : Position
  items : List Pattern := []
  rows : List Row := []

namespace Level

/-- A level of which nothing has been read. -/
def opened (start : Position) : Level := { start }

/-- The level with one more item. -/
def push (level : Level) (item : Pattern) : Level := { level with items := item :: level.items }

/-- The sequence at hand, ended at a place. -/
def row (level : Level) (stop : Position) : Row := ⟨⟨level.start, stop⟩, level.items⟩

/-- The level after a bar: the sequence at hand becomes a branch and a new one starts. -/
def bar (level : Level) (stop next : Position) : Level where
  start := next
  rows := level.row stop :: level.rows

/-- Where the first branch starts. -/
def first (level : Level) : Position := (level.rows.getLast?.map (·.span.start)).getD level.start

/-- All that was read at the level, ended at a place. -/
def close (level : Level) (stop : Position) : Pattern :=
  match level.rows with
  | [] => (level.row stop).close
  | rows => .choice ⟨level.first, stop⟩ ((level.row stop :: rows).reverse.map Row.close)

end Level

/-- A group that has not been closed: what was read around it, where it was opened, its kind, and
whether blanks were ignored around it. -/
structure OpenGroup where
  outer : Level
  span : Span
  kind : GroupKind
  verbose : Bool

/-- The items of a bracket between two operations, the last one first. -/
structure BracketUnion where
  span : Span
  items : List Bracket := []

namespace BracketUnion

/-- The items with one more. -/
def push (union : BracketUnion) (item : Bracket) : BracketUnion where
  span := ⟨if union.items.isEmpty then item.span.start else union.span.start, item.span.stop⟩
  items := item :: union.items

/-- The items as one part of a bracket. -/
def close (union : BracketUnion) : Bracket :=
  match union.items with
  | [] => .empty union.span
  | [item] => item
  | items => .union union.span items.reverse

end BracketUnion

/-- A bracket that has not been closed: where it was opened, the operation whose right side is being
read, with its left side, the items read since, and the first end of a range whose other end is an
escape. -/
structure OpenBracket where
  span : Span
  negated : Bool
  pending : Option (BracketOp × Bracket) := none
  union : BracketUnion
  rangeStart : Option Atom := none

namespace OpenBracket

/-- The bracket with one more item, which ends a range. -/
def push (bracket : OpenBracket) (item : Bracket) : OpenBracket :=
  { bracket with union := bracket.union.push item, rangeStart := none }

/-- What was read of a bracket: the pending operation takes the items since as its right side. -/
def content (bracket : OpenBracket) : Bracket :=
  let item := bracket.union.close
  match bracket.pending with
  | none => item
  | some (op, left) => .op ⟨left.span.start, item.span.stop⟩ op left item

end OpenBracket

/-! ### Modes -/

/-- A number in a repetition: before its first digit, or with its digits, the last one first. -/
inductive Number where
  | blank
  | digits (start : Position) (digits : List Char)

/-- A counted repetition: where its brace stands, and what is repeated. -/
structure Counted where
  start : Position
  body : Pattern

/-- What was the last thing read of the opening of a bracket. -/
inductive BracketStage where
  | opening
  | caret
  | dash
  | closing
deriving DecidableEq

/-- Where in a construction the machine stands.  A mode named `after…` ends as soon as the next
character is known. -/
inductive Mode where
  /-- Between two items of a sequence. -/
  | main
  -- repetitions
  | afterOperator (body : Pattern) (min : Nat) (max : Option Nat)
  | minimum (counted : Counted) (number : Number)
  | afterMinimum (counted : Counted) (min : Except Complaint Nat)
  | afterComma (counted : Counted) (min : Except Complaint Nat)
  | maximum (counted : Counted) (min : Nat) (number : Number)
  | afterMaximum (counted : Counted) (min max : Nat)
  | afterCount (counted : Counted) (min : Nat) (max : Option Nat)
  -- escapes
  | escape (start : Position)
  | hex (start : Position) (width : Nat)
  | hexFixed (start digitsStart : Position) (width : Nat) (digits : List Char)
  | afterHexFixed (start digitsStart : Position) (width : Nat) (digits : List Char)
  | hexBraced (start brace digitsStart : Position) (digits : List Char)
  | afterHexBraced (start brace digitsStart digitsStop : Position) (digits : List Char)
  | property (start : Position) (negated : Bool)
  | propertyName (start : Position) (negated : Bool) (name : List Char)
  | afterPropertyLetter (start : Position) (negated : Bool) (letter : Char)
  | afterBoundary (span : Span)
  | boundaryBrace (span : Span) (brace : Position)
  | boundaryName (span : Span) (brace nameStart : Position) (name : List Char)
  -- groups
  | groupOpen (span : Span)
  | groupQuestion (span : Span) (inner : Position)
  | groupAngle (span : Span)
  | groupLetter (span letter : Span)
  | groupName (span : Span) (start : Position) (name : List Char)
  | groupFlags (span : Span) (inner : Position) (items : List (FlagItem × Span))
  -- brackets
  | bracketOpen (start : Position) (negated : Bool) (stage : BracketStage) (union : BracketUnion)
  | asciiName (start : Position) (seen : List Char)
  /-- Between two items of a bracket. -/
  | bracket
  | twin (char : Char) (start : Position)
  | afterAtom (atom : Atom)
  | dash (atom : Atom) (start : Position) (blank hash : Bool)
  | rangeEnd (atom : Atom)

/-- Whether blanks and comments are passed over in a mode when the flag for that is set. -/
def Mode.skips : Mode → Bool
  | afterOperator .. | escape _ | afterBoundary _ | groupQuestion .. | groupAngle _ | groupLetter ..
  | groupName .. | groupFlags .. | asciiName .. | twin .. | dash .. => false
  | _ => true

/-! ### The state -/

/-- The state of a reader.  `groups` counts the groups that have a number, `names` holds the group
names with their places, `stack` and `brackets` the open groups and brackets, innermost first. -/
structure Reader where
  pos : Position := 0
  verbose : Bool := false
  comment : Bool := false
  groups : Nat := 0
  names : List (List Char × Span) := []
  level : Level := .opened 0
  stack : List OpenGroup := []
  brackets : List OpenBracket := []
  mode : Mode := .main

namespace Reader

/-- Refuse the expression. -/
def refuse {α : Type} (fault : Fault) (span : Span) (earlier : Option Span := none) :
    Except Complaint α := .error { fault, span, earlier }

/-- The state after a character, in another mode. -/
def pass (s : Reader) (mode : Mode) : Reader := { s with pos := s.pos + 1, mode }

/-- The state with one more item in the sequence at hand. -/
def push (s : Reader) (item : Pattern) : Reader :=
  { s with level := s.level.push item, mode := .main }

/-- The state with one more item in the innermost bracket. -/
def pushBracket (s : Reader) (item : Bracket) : Reader :=
  match s.brackets with
  | [] => { s with mode := .bracket }
  | bracket :: brackets => { s with brackets := bracket.push item :: brackets, mode := .bracket }

/-- Close a range with its second end. -/
def closeRange (s : Reader) (lo hi : Atom) : Except Complaint Reader := do
  let span : Span := ⟨lo.span.start, hi.span.stop⟩
  let lo ← lo.toRangeEnd
  let hi ← hi.toRangeEnd
  if lo.char ≤ hi.char then return s.pushBracket (.range span lo hi)
  refuse .bracketRangeInvalid span

/-- Put an atom where it belongs: into the sequence at hand, at the end of a range, or in front of
what may be the dash of a range. -/
def deliver (s : Reader) (atom : Atom) : Except Complaint Reader :=
  match s.brackets with
  | [] => .ok (s.push atom.toPattern)
  | bracket :: _ =>
      match bracket.rangeStart with
      | some lo => s.closeRange lo atom
      | none => .ok { s with mode := .afterAtom atom }

/-- The state after a character that completes an atom. -/
def complete (s : Reader) (atom : Atom) : Except Complaint Reader :=
  { s with pos := s.pos + 1 }.deliver atom

/-- Refuse an expression that ends inside a bracket. -/
def bracketUnclosed {α : Type} (s : Reader) : Except Complaint α :=
  match s.brackets with
  | bracket :: _ => refuse .bracketUnclosed bracket.span
  | [] => refuse .bracketUnclosed (.point s.pos)

/-- Whether the character `c` is a blank or starts a comment that is to be passed over. -/
def skips (s : Reader) (c : Char) : Bool :=
  s.verbose && s.mode.skips && (Unicode.isBlank c || c == '#')

/-- The state after a blank or the start of a comment. -/
def skip (s : Reader) (c : Char) : Reader :=
  { s with pos := s.pos + 1, comment := c == '#' }

/-- The state after a character of a comment, which the end of the line ends. -/
def passComment (s : Reader) (c : Char) : Reader :=
  { s with pos := s.pos + 1, comment := c != '\n' }

end Reader

end ParamTemplate.Regex
