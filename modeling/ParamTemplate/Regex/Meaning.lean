/-
**What a written expression means.**

Flags are followed from left to right: a setting that stands alone holds up to the end of the group
around it, through the bars of a choice, and the flags of a group hold inside it.  Without the
Unicode flag only ASCII is known: what could match a part of a character is refused.

Main definitions:

* `Regex.Flags` — the flags in force;
* `Regex.Bracket.meaning` — the set of a bracket;
* `Regex.Pattern.meaning` — the expression, with the flags in force after it.
-/

import ParamTemplate.Regex.Expr
import ParamTemplate.Regex.Pattern
import ParamTemplate.Unicode.Fold

set_option autoImplicit false

namespace ParamTemplate.Regex

/-! ### Flags -/

/-- The flags in force. -/
structure Flags where
  ignoreCase : Bool := false
  multiLine : Bool := false
  dotMatchesNewline : Bool := false
  swapGreed : Bool := false
  unicode : Bool := true
  crlf : Bool := false
deriving DecidableEq

/-- The flags after a list of settings. -/
def Flags.set (flags : Flags) (items : List FlagItem) : Flags where
  ignoreCase := (flagState .ignoreCase items).getD flags.ignoreCase
  multiLine := (flagState .multiLine items).getD flags.multiLine
  dotMatchesNewline := (flagState .dotMatchesNewline items).getD flags.dotMatchesNewline
  swapGreed := (flagState .swapGreed items).getD flags.swapGreed
  unicode := (flagState .unicode items).getD flags.unicode
  crlf := (flagState .crlf items).getD flags.crlf

/-! ### Sets -/

/-- The characters of an ASCII class, as ranges of codes. -/
def AsciiClass.ranges : AsciiClass → List (Nat × Nat)
  | alnum => [(0x30, 0x39), (0x41, 0x5A), (0x61, 0x7A)]
  | alpha => [(0x41, 0x5A), (0x61, 0x7A)]
  | ascii => [(0x00, 0x7F)]
  | blank => [(0x09, 0x09), (0x20, 0x20)]
  | cntrl => [(0x00, 0x1F), (0x7F, 0x7F)]
  | digit => [(0x30, 0x39)]
  | graph => [(0x21, 0x7E)]
  | lower => [(0x61, 0x7A)]
  | print => [(0x20, 0x7E)]
  | punct => [(0x21, 0x2F), (0x3A, 0x40), (0x5B, 0x60), (0x7B, 0x7E)]
  | space => [(0x09, 0x0D), (0x20, 0x20)]
  | upper => [(0x41, 0x5A)]
  | word => [(0x30, 0x39), (0x41, 0x5A), (0x5F, 0x5F), (0x61, 0x7A)]
  | xdigit => [(0x30, 0x39), (0x41, 0x46), (0x61, 0x66)]

/-- The characters of an ASCII class. -/
def AsciiClass.set (kind : AsciiClass) : CharSet := CharSet.ofRanges kind.ranges

/-- The characters of a class with a one-letter name. -/
def ShortClass.set (unicode : Bool) : ShortClass → CharSet
  | digit => if unicode then Unicode.digits else AsciiClass.digit.set
  | space => if unicode then Unicode.blanks else AsciiClass.space.set
  | word => if unicode then Unicode.words else AsciiClass.word.set

/-- The set together with the ASCII letters that differ from a member in case only. -/
def closeUnderAsciiFolding (s : CharSet) : CharSet :=
  let small := s.inter (.interval 0x61 0x7A)
  let capital := s.inter (.interval 0x41 0x5A)
  s.union ((CharSet.ofRanges (small.ranges.map fun r => (r.1 - 0x20, r.2 - 0x20))).union
    (CharSet.ofRanges (capital.ranges.map fun r => (r.1 + 0x20, r.2 + 0x20))))

/-- The set with all that differs from a member in case only. -/
def Flags.fold (flags : Flags) (s : CharSet) : CharSet :=
  if flags.ignoreCase then
    if flags.unicode then Unicode.closeUnderFolding s else closeUnderAsciiFolding s
  else s

/-- The complement of a set, if it is negated.  Where only ASCII is known, a complement would match
parts of characters. -/
def Flags.negate (flags : Flags) (span : Span) (negated : Bool) (s : CharSet) :
    Except Complaint CharSet :=
  if negated then
    if flags.unicode then .ok s.compl else .error { fault := .invalidUtf8, span }
  else .ok s

/-- Refuse a literal that is written as a byte and is none of ASCII, where only ASCII is known. -/
def Flags.checkByte (flags : Flags) (lit : Literal) : Except Complaint Unit :=
  if !flags.unicode && lit.isByte && 0x80 ≤ lit.char.toNat then
    .error { fault := .invalidUtf8, span := lit.span }
  else .ok ()

/-- The code of a literal in a bracket; where only ASCII is known it has to be one of ASCII. -/
def Flags.bracketCode (flags : Flags) (lit : Literal) : Except Complaint Nat := do
  flags.checkByte lit
  if !flags.unicode && 0x80 ≤ lit.char.toNat then
    .error { fault := .unicodeNotAllowed, span := lit.span }
  else .ok lit.char.toNat

/-- The characters with a property. -/
def Flags.propertySet (flags : Flags) (span : Span) (query : Unicode.PropertyQuery)
    (negated : Bool) : Except Complaint CharSet :=
  if flags.unicode then
    match query.find with
    | .ok s => flags.negate span negated (flags.fold s)
    | .error .propertyNotFound => .error { fault := .propertyNotFound, span }
    | .error .valueNotFound => .error { fault := .propertyValueNotFound, span }
  else .error { fault := .unicodeNotAllowed, span }

/-- The set of an operation. -/
def BracketOp.apply : BracketOp → CharSet → CharSet → CharSet
  | inter => CharSet.inter
  | diff => CharSet.diff
  | symmDiff => CharSet.symmDiff

mutual

/-- **The set of a bracket.** -/
def Bracket.meaning (flags : Flags) : Bracket → Except Complaint CharSet
  | .empty _ => .ok .empty
  | .literal lit => do
      let code ← flags.bracketCode lit
      return .interval code code
  | .range _ lo hi => do
      let lo ← flags.bracketCode lo
      let hi ← flags.bracketCode hi
      return .interval lo hi
  | .ascii span kind negated => flags.negate span negated (flags.fold kind.set)
  | .short span kind negated => flags.negate span negated (kind.set flags.unicode)
  | .property span query negated => flags.propertySet span query negated
  | .nested span negated content => do
      let s ← content.meaning flags
      flags.negate span negated (flags.fold s)
  | .union _ items => Bracket.meanings flags items
  | .op _ operation left right => do
      let left ← left.meaning flags
      let right ← right.meaning flags
      return operation.apply (flags.fold left) (flags.fold right)

/-- The union of the sets of the items of a bracket. -/
def Bracket.meanings (flags : Flags) : List Bracket → Except Complaint CharSet
  | [] => .ok .empty
  | item :: rest => do
      let s ← item.meaning flags
      let t ← Bracket.meanings flags rest
      return s.union t

end

/-! ### Leaves -/

/-- The expression of a character: itself, or all that differ from it in case only. -/
def Flags.char (flags : Flags) (c : Char) : Expr :=
  if !flags.ignoreCase then .text [c]
  else if flags.unicode then
    match Unicode.foldClass? c with
    | some members => .ofSet false (.ofRanges (members.map fun n => (n, n)))
    | none => .text [c]
  else if c.isAlpha then .ofSet true (closeUnderAsciiFolding (.single c))
  else .text [c]

/-- The expression of a literal. -/
def Flags.literal (flags : Flags) (lit : Literal) : Except Complaint Expr := do
  flags.checkByte lit
  return flags.char lit.char

/-- The expression of the dot. -/
def Flags.dot (flags : Flags) (span : Span) : Except Complaint Expr :=
  if !flags.unicode then .error { fault := .invalidUtf8, span }
  else if flags.dotMatchesNewline then .ok (.set false .full)
  else if flags.crlf then .ok (.set false ((CharSet.single '\n').union (.single '\r')).compl)
  else .ok (.set false (CharSet.single '\n').compl)

/-- The assertion that a written one is under the flags in force. -/
def Flags.look (flags : Flags) : Assertion → Look
  | .lineStart =>
      if !flags.multiLine then .textStart else if flags.crlf then .crlfLineStart else .lineStart
  | .lineEnd =>
      if !flags.multiLine then .textEnd else if flags.crlf then .crlfLineEnd else .lineEnd
  | .textStart => .textStart
  | .textEnd => .textEnd
  | .wordBoundary => .word .boundary !flags.unicode
  | .notWordBoundary => .word .notBoundary !flags.unicode
  | .wordStart => .word .start !flags.unicode
  | .wordEnd => .word .stop !flags.unicode
  | .wordStartHalf => .word .startHalf !flags.unicode
  | .wordEndHalf => .word .stopHalf !flags.unicode

/-! ### The expression -/

/-- The flags in force inside a group. -/
def GroupKind.inner (flags : Flags) : GroupKind → Flags
  | plain items => flags.set items
  | _ => flags

/-- The expression of a group with a body. -/
def GroupKind.wrap (body : Expr) : GroupKind → Expr
  | plain _ => body
  | numbered index | named index _ => .group index body

mutual

/-- **The expression that a written one means, with the flags in force after it.** -/
def Pattern.meaning (flags : Flags) : Pattern → Except Complaint (Expr × Flags)
  | .empty _ => .ok (.empty, flags)
  | .flags _ items => .ok (.empty, flags.set items)
  | .literal lit => do return (← flags.literal lit, flags)
  | .dot span => do return (← flags.dot span, flags)
  | .assertion _ kind => .ok (.look (flags.look kind), flags)
  | .short span kind negated => do
      let s ← flags.negate span negated (kind.set flags.unicode)
      return (.ofSet (!flags.unicode) s, flags)
  | .property span query negated => do
      let s ← flags.propertySet span query negated
      return (.ofSet (!flags.unicode) s, flags)
  | .bracket span negated content => do
      let s ← content.meaning flags
      let s ← flags.negate span negated (flags.fold s)
      return (.ofSet (!flags.unicode) s, flags)
  | .repetition _ min max greedy body => do
      let (e, flags) ← body.meaning flags
      return (.repeated min max (greedy != flags.swapGreed) e, flags)
  | .group _ kind body => do
      let (e, _) ← body.meaning (kind.inner flags)
      return (kind.wrap e, flags)
  | .choice _ branches => do
      let (es, flags) ← Pattern.meanings flags branches
      return (.choice es, flags)
  | .sequence _ items => do
      let (es, flags) ← Pattern.meanings flags items
      return (.concat es, flags)

/-- The expressions of a list of written ones, each under the flags in force after the one before
it. -/
def Pattern.meanings (flags : Flags) : List Pattern → Except Complaint (List Expr × Flags)
  | [] => .ok ([], flags)
  | item :: rest => do
      let (e, flags) ← item.meaning flags
      let (es, flags) ← Pattern.meanings flags rest
      return (e :: es, flags)

end

end ParamTemplate.Regex
