/-
**Reading brackets.**

Between `[` and `]` stand characters, ranges, classes and further brackets, which operations of two
equal characters may combine.  A dash is the sign of a range only between two single characters, so
what it means is settled by the next character that is not a blank.

Main definitions:

* `Regex.Reader.feedBracketOpen`, `Regex.Reader.closeBracket` — begin and end a bracket;
* `Regex.Reader.feedBracket` — a character between two items;
* `Regex.Reader.combineBracket` — an operation;
* `Regex.asciiClass?` — the ASCII classes, by what follows the bracket that opens them.
-/

import ParamTemplate.Regex.Reader.Group

set_option autoImplicit false

namespace ParamTemplate.Regex

/-- The ASCII classes with their names. -/
def asciiNames : List (AsciiClass × String) :=
  [(.alnum, "alnum"), (.alpha, "alpha"), (.ascii, "ascii"), (.blank, "blank"), (.cntrl, "cntrl"),
   (.digit, "digit"), (.graph, "graph"), (.lower, "lower"), (.print, "print"), (.punct, "punct"),
   (.space, "space"), (.upper, "upper"), (.word, "word"), (.xdigit, "xdigit")]

/-- What follows the bracket of an ASCII class, for every class and for its complement. -/
def asciiForms : List ((AsciiClass × Bool) × List Char) :=
  asciiNames.flatMap fun (kind, name) =>
    [((kind, false), (":" ++ name ++ ":]").toList), ((kind, true), (":^" ++ name ++ ":]").toList)]

/-- The ASCII class whose form after the bracket is `text`. -/
def asciiClass? (text : List Char) : Option (AsciiClass × Bool) :=
  (asciiForms.find? fun form => form.2 = text).map Prod.fst

/-- Whether `text` begins the form of an ASCII class. -/
def beginsAsciiClass (text : List Char) : Bool := asciiForms.any fun form => text.isPrefixOf form.2

/-- The operation that a character written twice stands for. -/
def bracketOp? : Char → Option BracketOp
  | '&' => some .inter
  | '-' => some .diff
  | '~' => some .symmDiff
  | _ => none

namespace Reader

/-- Begin to read a bracket. -/
def startBracket (s : Reader) : Reader :=
  s.pass (.bracketOpen s.pos false .opening { span := .point s.pos })

/-- Whether the character `c` still belongs to the opening of a bracket: a caret may come first,
then dashes, and if there are none a closing bracket may stand for itself. -/
def opensBracket (stage : BracketStage) (c : Char) : Bool :=
  match stage with
  | .opening => c == '^' || c == '-' || c == ']'
  | .caret => c == '-' || c == ']'
  | .dash => c == '-'
  | .closing => false

/-- A character of the opening of a bracket. -/
def feedBracketOpen (s : Reader) (start : Position) (negated : Bool) (union : BracketUnion)
    (c : Char) : Reader :=
  if c = '^' then s.pass (.bracketOpen start true .caret union)
  else
    let item : Bracket := .literal { span := .ofChar s.pos, char := c }
    s.pass (.bracketOpen start negated (if c = '-' then .dash else .closing) (union.push item))

/-- The end of the opening of a bracket, once the blanks after it have been passed over. -/
def finishBracketOpen (s : Reader) (start : Position) (negated : Bool) (union : BracketUnion) :
    Reader :=
  let union := if union.items.isEmpty then { span := .point s.pos } else union
  { s with brackets := { span := ⟨start, s.pos⟩, negated, union } :: s.brackets, mode := .bracket }

/-- End the innermost bracket. -/
def closeBracket (s : Reader) : Reader :=
  match s.brackets with
  | [] => s
  | bracket :: brackets =>
      let span : Span := ⟨bracket.span.start, s.pos + 1⟩
      let s := { s with pos := s.pos + 1, brackets }
      if brackets.isEmpty then s.push (.bracket span bracket.negated bracket.content)
      else s.pushBracket (.nested span bracket.negated bracket.content)

/-- The second character of an operation: the items before it become its left side. -/
def combineBracket (s : Reader) (op : BracketOp) : Reader :=
  match s.brackets with
  | [] => s
  | bracket :: brackets =>
      let union : BracketUnion := { span := .point (s.pos + 1) }
      { s with
        pos := s.pos + 1
        brackets := { bracket with pending := some (op, bracket.content), union } :: brackets
        mode := .bracket }

/-- A character between two items of a bracket. -/
def feedBracket (s : Reader) (c : Char) : Reader :=
  if c = '[' then s.pass (.asciiName s.pos [])
  else if c = ']' then s.closeBracket
  else if (bracketOp? c).isSome then s.pass (.twin c s.pos)
  else if c = '\\' then s.pass (.escape s.pos)
  else s.pass (.afterAtom (.literal { span := .ofChar s.pos, char := c }))

/-- The character after one that written twice would be an operation. -/
def feedTwin (s : Reader) (twin : Char) : Reader :=
  match bracketOp? twin with
  | some op => s.combineBracket op
  | none => s

/-- Remember the first end of a range, whose other end is an escape. -/
def openRange (s : Reader) (lo : Atom) : Reader :=
  match s.brackets with
  | [] => s
  | bracket :: brackets =>
      { s with brackets := { bracket with rangeStart := some lo } :: brackets }

/-- The second end of a range. -/
def feedRangeEnd (s : Reader) (lo : Atom) (c : Char) : Except Complaint Reader :=
  if c = '\\' then .ok ((s.openRange lo).pass (.escape s.pos))
  else
    { s with pos := s.pos + 1 }.closeRange lo
      (.literal { span := .ofChar s.pos, char := c })

/-- Settle what the dash at `start` after `atom` means, when the next character that is not a blank
is `c`: in front of a dash or a closing bracket it stands for itself, or begins the operation of
two dashes if nothing stands between them; otherwise it is the sign of a range. -/
def settleDash (s : Reader) (atom : Atom) (start : Position) (adjacent : Bool) (c : Char) :
    Except Complaint Reader := do
  if c = ']' || c = '-' then
    let s := s.pushBracket (← atom.toBracket)
    if c = '-' && adjacent then return { s with mode := .twin '-' start }
    return { s with mode := .afterAtom (.literal { span := .ofChar start, char := '-' }) }
  return { s with mode := .rangeEnd atom }

/-- A blank, or the first character of a comment, after the dash at `start`. -/
def skipAfterDash (s : Reader) (atom : Atom) (start : Position) (hash : Bool) (c : Char) : Reader :=
  { s with
    pos := s.pos + 1
    comment := if c = '#' then true else s.comment && c != '\n'
    mode := .dash atom start true (hash || c == '#') }

end Reader

end ParamTemplate.Regex
