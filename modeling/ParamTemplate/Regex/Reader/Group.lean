/-
**Reading groups.**

A parenthesis opens a group that has a number, with or without a name, or one that only holds
together what is in it and may set flags for it; a list of flags may also stand alone.  Groups are
numbered in the order in which they are opened.

Main definitions:

* `Regex.Reader.openGroup`, `Regex.Reader.closeGroup` — begin and end a group;
* `Regex.Reader.feedGroupName`, `Regex.Reader.feedGroupFlags` — one character of a name or of a list
  of flags;
* `Regex.Reader.finishLevel` — the whole expression, if no group is open.
-/

import ParamTemplate.Regex.Reader.Escape

set_option autoImplicit false

namespace ParamTemplate.Regex

/-- Whether a character may stand in the name of a group; fewer may stand first. -/
def isNameChar (first : Bool) (c : Char) : Bool :=
  if first then c == '_' || Unicode.isAlphabetic c
  else c == '_' || c == '.' || c == '[' || c == ']' || Unicode.isAlphanumeric c

namespace Reader

/-- Begin a group of a kind; what is read next belongs to it. -/
def openGroup (s : Reader) (span : Span) (kind : GroupKind) (verbose : Bool) : Reader :=
  { s with
    stack := { outer := s.level, span, kind, verbose := s.verbose } :: s.stack
    level := .opened s.pos
    verbose
    mode := .main }

/-- Begin a group that gets the next number. -/
def openNumbered (s : Reader) (span : Span) : Reader :=
  { s with groups := s.groups + 1 }.openGroup span (.numbered (s.groups + 1)) s.verbose

/-- End the innermost group. -/
def closeGroup (s : Reader) : Except Complaint Reader :=
  match s.stack with
  | [] => refuse .groupUnopened (.ofChar s.pos)
  | group :: stack =>
      let item := Pattern.group ⟨group.span.start, s.pos + 1⟩ group.kind (s.level.close s.pos)
      .ok { s with
        pos := s.pos + 1
        level := group.outer.push item
        verbose := group.verbose
        stack
        mode := .main }

/-- End the sequence at hand. -/
def bar (s : Reader) : Reader :=
  { s with
    pos := s.pos + 1
    level := s.level.bar s.pos (s.pos + 1)
    mode := .main }

/-- Whether a character after `(?` or `(?<` makes a look-around. -/
def isLookSign (c : Char) : Bool := c == '=' || c == '!'

/-- Whether a character after `(?` begins something else than a list of flags. -/
def isGroupSign (c : Char) : Bool := isLookSign c || c == '<' || c == 'P'

/-- The character after `(?`, where it does not begin a list of flags. -/
def feedGroupQuestion (s : Reader) (span : Span) (c : Char) : Except Complaint Reader :=
  if isLookSign c then refuse .lookAround (span.upTo (s.pos + 1))
  else if c = '<' then .ok (s.pass (.groupAngle span))
  else .ok (s.pass (.groupLetter span (.ofChar s.pos)))

/-- One more character of the name of a group; `name` holds those before it, the last one first. -/
def feedGroupName (s : Reader) (span : Span) (start : Position) (name : List Char) (c : Char) :
    Except Complaint Reader :=
  if c = '>' then
    if name.isEmpty then refuse .groupNameEmpty (.point start)
    else
      let place : Span := ⟨start, s.pos⟩
      match s.names.find? fun entry => entry.1 = name.reverse with
      | some (_, earlier) => refuse .groupNameDuplicate place (some earlier)
      | none =>
          let s := { s with
            pos := s.pos + 1
            groups := s.groups + 1
            names := (name.reverse, place) :: s.names }
          .ok (s.openGroup span (.named s.groups name.reverse) s.verbose)
  else if isNameChar name.isEmpty c then .ok (s.pass (.groupName span start (c :: name)))
  else refuse .groupNameInvalid (.ofChar s.pos)

/-- The item of a list of flags that a character is. -/
def flagItem? (c : Char) : Option FlagItem :=
  if c = '-' then some .negation else (Flag.ofChar? c).map .flag

/-- One more item of a list of flags, which must not repeat one of them. -/
def feedFlagItem (s : Reader) (span : Span) (inner : Position) (items : List (FlagItem × Span))
    (c : Char) : Except Complaint Reader :=
  match flagItem? c with
  | none => refuse .flagUnrecognized (.ofChar s.pos)
  | some item =>
      match items.find? fun entry => entry.1 = item with
      | some (_, earlier) =>
          refuse (if item = .negation then .flagRepeatedNegation else .flagDuplicate)
            (.ofChar s.pos) (some earlier)
      | none => .ok (s.pass (.groupFlags span inner ((item, .ofChar s.pos) :: items)))

/-- The end of a list of flags: a colon opens a group in which they hold, and a parenthesis sets
them from there on. -/
def finishFlags (s : Reader) (span : Span) (inner : Position) (items : List FlagItem) (c : Char) :
    Except Complaint Reader :=
  let verbose := (flagState .verbose items).getD s.verbose
  if c = ':' then
    .ok ({ s with pos := s.pos + 1 }.openGroup span (.plain items) verbose)
  else if items.isEmpty then refuse .operandMissing (.point inner)
  else
    .ok ({ s with pos := s.pos + 1, verbose }.push (.flags (span.upTo (s.pos + 1)) items))

/-- One more character of a list of flags; `items` holds those before it, the last one first. -/
def feedGroupFlags (s : Reader) (span : Span) (inner : Position) (items : List (FlagItem × Span))
    (c : Char) : Except Complaint Reader :=
  if c = ':' || c = ')' then
    match items with
    | (.negation, place) :: _ => refuse .flagDanglingNegation place
    | _ => s.finishFlags span inner (items.reverse.map Prod.fst) c
  else s.feedFlagItem span inner items c

/-- The whole expression, if no group is open at its end. -/
def finishLevel (s : Reader) : Except Complaint Pattern :=
  match s.stack with
  | [] => .ok (s.level.close s.pos)
  | group :: _ => refuse .groupUnclosed group.span

end Reader

end ParamTemplate.Regex
