/-
**Expressions as they are written.**

The tree of an expression keeps what its text says, with the place of every part: groups with their
numbers, flag settings where they stand, brackets with the operations inside them.  Nothing is
interpreted yet; that is the task of `ParamTemplate.Regex.Meaning`.

Main definitions:

* `Regex.Pattern` — the tree of an expression;
* `Regex.Bracket` — the tree of what stands between `[` and `]`;
* `Regex.FlagItem` — what may stand in a list of flags.
-/

import ParamTemplate.Regex.Fault
import ParamTemplate.Unicode.Property

set_option autoImplicit false

namespace ParamTemplate.Regex

/-! ### Leaves -/

/-- A character that stands for itself.  `isByte` tells that it was written as a backslash, an `x`
and two digits, which is how a byte is written where characters are not in use. -/
structure Literal where
  span : Span
  char : Char
  isByte : Bool := false
deriving DecidableEq

/-- The classes with one-letter names. -/
inductive ShortClass where
  | digit
  | space
  | word
deriving DecidableEq

/-- The ASCII classes that are written between `[:` and `:]` inside brackets. -/
inductive AsciiClass where
  | alnum | alpha | ascii | blank | cntrl | digit | graph | lower | print | punct | space | upper
  | word | xdigit
deriving DecidableEq

/-- The assertions on a place in the text, as they are written. -/
inductive Assertion where
  | lineStart
  | lineEnd
  | textStart
  | textEnd
  | wordBoundary
  | notWordBoundary
  | wordStart
  | wordEnd
  | wordStartHalf
  | wordEndHalf
deriving DecidableEq

/-- The flags. -/
inductive Flag where
  | ignoreCase
  | multiLine
  | dotMatchesNewline
  | swapGreed
  | unicode
  | crlf
  | verbose
deriving DecidableEq

/-- The flag of a letter. -/
def Flag.ofChar? : Char → Option Flag
  | 'i' => some .ignoreCase
  | 'm' => some .multiLine
  | 's' => some .dotMatchesNewline
  | 'U' => some .swapGreed
  | 'u' => some .unicode
  | 'R' => some .crlf
  | 'x' => some .verbose
  | _ => none

/-- What stands in a list of flags: a flag, or the sign after which flags are switched off. -/
inductive FlagItem where
  | negation
  | flag (flag : Flag)
deriving DecidableEq

/-- What a list of flags says about one of them: on, off, or nothing. -/
def flagState (flag : Flag) : List FlagItem → Option Bool
  | [] => none
  | .negation :: rest => (flagState flag rest).map fun _ => false
  | .flag f :: rest => if f = flag then some true else flagState flag rest

/-! ### Brackets -/

/-- The operations between two parts of a bracket. -/
inductive BracketOp where
  | inter
  | diff
  | symmDiff
deriving DecidableEq

/-- What stands between `[` and `]`. -/
inductive Bracket where
  | empty (span : Span)
  | literal (literal : Literal)
  | range (span : Span) (lo hi : Literal)
  | ascii (span : Span) (kind : AsciiClass) (negated : Bool)
  | short (span : Span) (kind : ShortClass) (negated : Bool)
  | property (span : Span) (query : Unicode.PropertyQuery) (negated : Bool)
  | nested (span : Span) (negated : Bool) (content : Bracket)
  | union (span : Span) (items : List Bracket)
  | op (span : Span) (op : BracketOp) (left right : Bracket)

/-- Where a part of a bracket stands. -/
def Bracket.span : Bracket → Span
  | empty span | range span .. | ascii span .. | short span .. | property span .. | nested span ..
  | union span .. | op span .. => span
  | literal lit => lit.span

/-! ### The tree -/

/-- How a group takes part in the numbering of groups. -/
inductive GroupKind where
  | plain (flags : List FlagItem)
  | numbered (index : Nat)
  | named (index : Nat) (name : List Char)
deriving DecidableEq

/-- An expression as it is written. -/
inductive Pattern where
  | empty (span : Span)
  | flags (span : Span) (items : List FlagItem)
  | literal (literal : Literal)
  | dot (span : Span)
  | assertion (span : Span) (kind : Assertion)
  | short (span : Span) (kind : ShortClass) (negated : Bool)
  | property (span : Span) (query : Unicode.PropertyQuery) (negated : Bool)
  | bracket (span : Span) (negated : Bool) (content : Bracket)
  | repetition (span : Span) (min : Nat) (max : Option Nat) (greedy : Bool) (body : Pattern)
  | group (span : Span) (kind : GroupKind) (body : Pattern)
  | choice (span : Span) (branches : List Pattern)
  | sequence (span : Span) (items : List Pattern)

/-- Where an expression stands. -/
def Pattern.span : Pattern → Span
  | empty span | flags span .. | dot span | assertion span .. | short span .. | property span ..
  | bracket span .. | repetition span .. | group span .. | choice span .. | sequence span .. => span
  | literal lit => lit.span

/-- Whether a repetition may follow: neither nothing nor a flag setting can be repeated. -/
def Pattern.isRepeatable : Pattern → Bool
  | empty _ | flags .. => false
  | _ => true

/-! ### Depth -/

mutual

/-- The first part of a bracket, in reading order, that lies deeper than `nestLimit`, when `depth`
levels are open around it. -/
def Bracket.tooDeep? (depth : Nat) : Bracket → Option Span
  | .nested span _ content =>
      if nestLimit ≤ depth then some span else content.tooDeep? (depth + 1)
  | .union span items =>
      if nestLimit ≤ depth then some span else Bracket.anyTooDeep? (depth + 1) items
  | .op span _ left right =>
      if nestLimit ≤ depth then some span
      else (left.tooDeep? (depth + 1)).or (right.tooDeep? (depth + 1))
  | _ => none

/-- The first part that lies too deep of a list of them. -/
def Bracket.anyTooDeep? (depth : Nat) : List Bracket → Option Span
  | [] => none
  | item :: rest => (item.tooDeep? depth).or (Bracket.anyTooDeep? depth rest)

end

mutual

/-- The first part of an expression, in reading order, that lies deeper than `nestLimit`, when
`depth` levels are open around it.  Leaves and flag settings do not count as a level. -/
def Pattern.tooDeep? (depth : Nat) : Pattern → Option Span
  | .bracket span _ content =>
      if nestLimit ≤ depth then some span else content.tooDeep? (depth + 1)
  | .repetition span _ _ _ body =>
      if nestLimit ≤ depth then some span else body.tooDeep? (depth + 1)
  | .group span _ body =>
      if nestLimit ≤ depth then some span else body.tooDeep? (depth + 1)
  | .choice span branches =>
      if nestLimit ≤ depth then some span else Pattern.anyTooDeep? (depth + 1) branches
  | .sequence span items =>
      if nestLimit ≤ depth then some span else Pattern.anyTooDeep? (depth + 1) items
  | _ => none

/-- The first part that lies too deep of a list of expressions. -/
def Pattern.anyTooDeep? (depth : Nat) : List Pattern → Option Span
  | [] => none
  | item :: rest => (item.tooDeep? depth).or (Pattern.anyTooDeep? depth rest)

end

end ParamTemplate.Regex
