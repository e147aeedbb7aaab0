/-
**Reading escapes.**

A backslash makes an atom together with what follows it: a character by its code, a class, an
assertion, or a character that would otherwise have a meaning of its own.

Main definitions:

* `Regex.isMeta`, `Regex.isEscapable` — the characters that have a meaning of their own, and those
  that a backslash turns into themselves;
* `Regex.Reader.feedEscape` — the character after a backslash;
* `Regex.Reader.finishHexFixed`, `Regex.Reader.finishHexBraced` — a character by its code;
* `Regex.propertyQuery` — the question that stands between the braces of a property.
-/

import ParamTemplate.Regex.Reader.Repetition

set_option autoImplicit false

namespace ParamTemplate.Regex

/-- Whether a character has a meaning of its own somewhere in an expression. -/
def isMeta (c : Char) : Bool := "\\.+*?()|[]\x7b\x7d^$#&-~".toList.contains c

/-- Whether a backslash turns a character into itself: all ASCII characters but letters, digits and
angle brackets. -/
def isEscapable (c : Char) : Bool :=
  c.toNat < 0x80 && !c.isAlphanum && c != '<' && c != '>'

/-- Whether a character is a hexadecimal digit. -/
def isHexDigit (c : Char) : Bool :=
  c.isDigit || ('a' ≤ c && c ≤ 'f') || ('A' ≤ c && c ≤ 'F')

/-- The character whose code has the given hexadecimal digits, the last one first. -/
def charOfHex? (digits : List Char) : Option Char :=
  let code := digits.foldr (fun c n => 16 * n + CharSet.hexDigit c) 0
  if code.isValidChar then some (Char.ofNat code) else none

/-- The character that a letter after a backslash names. -/
def controlChar? : Char → Option Char
  | 'a' => some '\x07'
  | 'f' => some '\x0c'
  | 't' => some '\t'
  | 'n' => some '\n'
  | 'r' => some '\r'
  | 'v' => some '\x0b'
  | _ => none

/-- The class that a letter after a backslash names. -/
def shortClass? : Char → Option (ShortClass × Bool)
  | 'd' => some (.digit, false)
  | 's' => some (.space, false)
  | 'w' => some (.word, false)
  | 'D' => some (.digit, true)
  | 'S' => some (.space, true)
  | 'W' => some (.word, true)
  | _ => none

/-- The assertion that a character after a backslash names. -/
def assertion? : Char → Option Assertion
  | 'A' => some .textStart
  | 'z' => some .textEnd
  | 'B' => some .notWordBoundary
  | '<' => some .wordStart
  | '>' => some .wordEnd
  | _ => none

/-- The assertion that a name in braces after `\b` stands for. -/
def namedBoundary? (name : List Char) : Option Assertion :=
  if name = "start".toList then some .wordStart
  else if name = "end".toList then some .wordEnd
  else if name = "start-half".toList then some .wordStartHalf
  else if name = "end-half".toList then some .wordEndHalf
  else none

/-- Whether a character may stand in the name of a boundary. -/
def isBoundaryChar (c : Char) : Bool := c.isAlpha || c == '-'

/-- What stands before and after the first occurrence of a separator. -/
def splitAt? (separator : List Char) : List Char → Option (List Char × List Char)
  | [] => none
  | c :: rest =>
      if separator.isPrefixOf (c :: rest) then some ([], (c :: rest).drop separator.length)
      else (splitAt? separator rest).map fun parts => (c :: parts.1, parts.2)

/-- The question for a property that a text between braces is: a name, or a name and a value, which
`!=`, a colon or an equals sign separates.  All three separators ask for the same. -/
def propertyQuery (text : List Char) : Unicode.PropertyQuery :=
  match (splitAt? ['!', '='] text).or ((splitAt? [':'] text).or (splitAt? ['='] text)) with
  | some (name, value) => .valued name value
  | none => .named text

namespace Reader

/-- The character after the backslash at `start`. -/
def feedEscape (s : Reader) (start : Position) (c : Char) : Except Complaint Reader :=
  let span : Span := ⟨start, s.pos + 1⟩
  if c.isDigit then refuse .backreference span
  else if c = 'x' then .ok (s.pass (.hex start 2))
  else if c = 'u' then .ok (s.pass (.hex start 4))
  else if c = 'U' then .ok (s.pass (.hex start 8))
  else if c = 'p' || c = 'P' then .ok (s.pass (.property start (c = 'P')))
  else if c = 'b' then .ok (s.pass (.afterBoundary span))
  else
    match shortClass? c, controlChar? c, assertion? c with
    | some (kind, negated), _, _ => s.complete (.short span kind negated)
    | _, some char, _ => s.complete (.literal { span, char })
    | _, _, some kind => s.complete (.assertion span kind)
    | none, none, none =>
        if isMeta c || isEscapable c then s.complete (.literal { span, char := c })
        else refuse .escapeUnrecognized span

/-- The first character of a code: an opening brace, or a digit of a code of fixed width. -/
def feedHex (s : Reader) (start : Position) (width : Nat) (c : Char) : Except Complaint Reader :=
  if c = '{' then .ok (s.pass (.hexBraced start s.pos (s.pos + 1) []))
  else if isHexDigit c then .ok (s.pass (.hexFixed start s.pos width [c]))
  else refuse .hexDigitInvalid (.ofChar s.pos)

/-- One more digit of a code of fixed width. -/
def feedHexFixed (s : Reader) (start digitsStart : Position) (width : Nat) (digits : List Char)
    (c : Char) : Except Complaint Reader :=
  if isHexDigit c then
    let digits := c :: digits
    if digits.length = width then .ok (s.pass (.afterHexFixed start digitsStart width digits))
    else .ok (s.pass (.hexFixed start digitsStart width digits))
  else refuse .hexDigitInvalid (.ofChar s.pos)

/-- The end of a code of fixed width, once the blanks after it have been passed over. -/
def finishHexFixed (s : Reader) (start digitsStart : Position) (width : Nat)
    (digits : List Char) : Except Complaint Reader :=
  match charOfHex? digits with
  | some char => s.deliver (.literal { span := ⟨start, s.pos⟩, char, isByte := width = 2 })
  | none => refuse .hexInvalid ⟨digitsStart, s.pos⟩

/-- One more character between the braces of a code. -/
def feedHexBraced (s : Reader) (start brace digitsStart : Position) (digits : List Char)
    (c : Char) : Except Complaint Reader :=
  if c = '}' then .ok (s.pass (.afterHexBraced start brace digitsStart s.pos digits))
  else if isHexDigit c then .ok (s.pass (.hexBraced start brace digitsStart (c :: digits)))
  else refuse .hexDigitInvalid (.ofChar s.pos)

/-- The end of a code in braces, once the blanks after it have been passed over. -/
def finishHexBraced (s : Reader) (start brace digitsStart digitsStop : Position)
    (digits : List Char) : Except Complaint Reader :=
  if digits.isEmpty then refuse .hexEmpty ⟨brace, s.pos⟩
  else
    match charOfHex? digits with
    | some char => s.deliver (.literal { span := ⟨start, s.pos⟩, char })
    | none => refuse .hexInvalid ⟨digitsStart, digitsStop⟩

/-- The first character after the letter of a property. -/
def feedProperty (s : Reader) (start : Position) (negated : Bool) (c : Char) :
    Except Complaint Reader :=
  if c = '{' then .ok (s.pass (.propertyName start negated []))
  else if c = '\\' then refuse .propertyEscape (.ofChar s.pos)
  else .ok (s.pass (.afterPropertyLetter start negated c))

/-- One more character between the braces of a property; `name` holds those before it, the last one
first. -/
def feedPropertyName (s : Reader) (start : Position) (negated : Bool) (name : List Char)
    (c : Char) : Except Complaint Reader :=
  if c = '}' then
    s.complete (.property ⟨start, s.pos + 1⟩ (propertyQuery name.reverse) negated)
  else .ok (s.pass (.propertyName start negated (c :: name)))

/-- The brace after `\b` that turned out to open no name, when `c` follows it.  It opens a counted
repetition of the boundary then; inside brackets there is none, and the boundary is refused. -/
def boundaryCount (s : Reader) (span : Span) (brace : Position) :
    Except Complaint Reader :=
  match s.brackets with
  | [] => .ok { s with
      mode := .minimum { start := brace, body := .assertion span .wordBoundary } .blank }
  | bracket :: _ =>
      match bracket.rangeStart with
      | some lo => s.closeRange lo (.assertion span .wordBoundary)
      | none => refuse .bracketEscapeInvalid span

/-- One more character of the name of a boundary; `name` holds those before it, the last one
first. -/
def feedBoundaryName (s : Reader) (span : Span) (brace nameStart : Position) (name : List Char)
    (c : Char) : Except Complaint Reader :=
  if isBoundaryChar c then .ok (s.pass (.boundaryName span brace nameStart (c :: name)))
  else if c = '}' then
    match namedBoundary? name.reverse with
    | some kind => s.complete (.assertion (span.upTo (s.pos + 1)) kind)
    | none => refuse .boundaryUnrecognized ⟨nameStart, s.pos⟩
  else refuse .boundaryUnclosed ⟨brace, s.pos⟩

end Reader

end ParamTemplate.Regex
