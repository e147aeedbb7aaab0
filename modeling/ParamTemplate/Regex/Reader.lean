/-
**Reading expressions.**

The machine of `ParamTemplate.Regex.Reader.Basic` at work.  A character is dealt with in three
steps: it may be a blank or part of a comment, to be passed over; it may settle what came before it;
and then it is taken in by the mode that the machine is in.

Main definitions:

* `Regex.Reader.settle` — end what the next character, or the end of the text, shows to be over;
* `Regex.Reader.take` — take a character in;
* `Regex.Reader.feed`, `Regex.Reader.finish` — the machine;
* `Regex.Pattern.read` — the expression that a text is, or what is wrong with it.

Main statement:

* `Regex.Reader.feedAll_append` — reading a concatenation is reading its parts in turn.
-/

import ParamTemplate.Regex.Reader.Brackets

set_option autoImplicit false

namespace ParamTemplate.Regex

namespace Reader

/-! ### Settling what came before a character -/

/-- End what the next character shows to be over; there is none at the end of the text. -/
def settle (s : Reader) (next : Option Char) : Except Complaint Reader :=
  match s.mode with
  | .afterOperator body min max =>
      if next = some '?' then .ok s else .ok (s.pushRepetition body min max true)
  | .minimum counted number =>
      match next with
      | some c =>
          if number.continues c then .ok s
          else .ok { s with mode := .afterMinimum counted (number.value s.pos) }
      | none => s.countUnclosed counted
  | .afterMinimum counted _ =>
      if next.isNone then s.countUnclosed counted else .ok s
  | .afterComma counted min =>
      match next with
      | some c => do
          if c = '}' then return s
          return { s with mode := .maximum counted (← min) .blank }
      | none => s.countUnclosed counted
  | .maximum counted min number => do
      if (next.map number.continues).getD false then return s
      return { s with mode := .afterMaximum counted min (← number.value s.pos) }
  | .afterMaximum counted _ _ =>
      if next.isNone then s.countUnclosed counted else .ok s
  | .afterCount counted min max =>
      if next = some '?' then .ok s else s.pushCounted counted min max true
  | .afterHexFixed start digitsStart width digits =>
      s.finishHexFixed start digitsStart width digits
  | .afterHexBraced start brace digitsStart digitsStop digits =>
      s.finishHexBraced start brace digitsStart digitsStop digits
  | .afterPropertyLetter start negated letter =>
      s.deliver (.property ⟨start, s.pos⟩ (.named [letter]) negated)
  | .afterBoundary span =>
      if next = some '{' then .ok s else s.deliver (.assertion span .wordBoundary)
  | .boundaryBrace span brace =>
      match next with
      | some c => if isBoundaryChar c then .ok s else s.boundaryCount span brace
      | none => refuse .boundaryUnfinished (span.upTo s.pos)
  | .groupOpen span =>
      if next = some '?' then .ok s else .ok (s.openNumbered span)
  | .groupQuestion span inner =>
      match next with
      | some c =>
          if isGroupSign c then .ok s else .ok { s with mode := .groupFlags span inner [] }
      | none => .ok s
  | .groupAngle span =>
      match next with
      | some c => if isLookSign c then .ok s else .ok { s with mode := .groupName span s.pos [] }
      | none => .ok s
  | .bracketOpen start negated stage union =>
      match next with
      | some c =>
          if opensBracket stage c then .ok s else .ok (s.finishBracketOpen start negated union)
      | none => .ok s
  | .twin char start =>
      if next = some char || next.isNone then .ok s
      else .ok { s with mode := .afterAtom (.literal { span := .ofChar start, char }) }
  | .afterAtom atom =>
      if next = some '-' || next.isNone then .ok s
      else do return s.pushBracket (← atom.toBracket)
  | _ => .ok s

/-! ### Taking a character in -/

/-- A character between two items of a sequence. -/
def takeMain (s : Reader) (c : Char) : Except Complaint Reader :=
  match c with
  | '(' => .ok (s.pass (.groupOpen (.ofChar s.pos)))
  | ')' => s.closeGroup
  | '|' => .ok s.bar
  | '[' => .ok s.startBracket
  | '?' => s.startRepetition 0 (some 1)
  | '*' => s.startRepetition 0 none
  | '+' => s.startRepetition 1 none
  | '{' => s.startCount
  | '\\' => .ok (s.pass (.escape s.pos))
  | '.' => s.complete (.dot (.ofChar s.pos))
  | '^' => s.complete (.assertion (.ofChar s.pos) .lineStart)
  | '$' => s.complete (.assertion (.ofChar s.pos) .lineEnd)
  | _ => s.complete (.literal { span := .ofChar s.pos, char := c })

/-- Take in a character that neither is passed over nor leaves anything to settle. -/
def take (s : Reader) (c : Char) : Except Complaint Reader :=
  match s.mode with
  | .main => s.takeMain c
  | .afterOperator body min max =>
      .ok ({ s with pos := s.pos + 1 }.pushRepetition body min max false)
  | .minimum counted number => .ok (s.pass (.minimum counted (number.feed s.pos c)))
  | .afterMinimum counted min => s.feedAfterMinimum counted min c
  | .afterComma counted min => do return s.pass (.afterCount counted (← min) none)
  | .maximum counted min number => .ok (s.pass (.maximum counted min (number.feed s.pos c)))
  | .afterMaximum counted min max => s.feedAfterMaximum counted min max c
  | .afterCount counted min max =>
      { s with pos := s.pos + 1 }.pushCounted counted min max false
  | .escape start => s.feedEscape start c
  | .hex start width => s.feedHex start width c
  | .hexFixed start digitsStart width digits => s.feedHexFixed start digitsStart width digits c
  | .hexBraced start brace digitsStart digits => s.feedHexBraced start brace digitsStart digits c
  | .property start negated => s.feedProperty start negated c
  | .propertyName start negated name => s.feedPropertyName start negated name c
  | .afterBoundary span => .ok (s.pass (.boundaryBrace span s.pos))
  | .boundaryBrace span brace => .ok (s.pass (.boundaryName span brace s.pos [c]))
  | .boundaryName span brace nameStart name => s.feedBoundaryName span brace nameStart name c
  | .groupOpen span => .ok (s.pass (.groupQuestion span s.pos))
  | .groupQuestion span _ => s.feedGroupQuestion span c
  | .groupAngle span => refuse .lookAround (span.upTo (s.pos + 1))
  | .groupLetter span letter =>
      if c = '<' then .ok (s.pass (.groupName span (s.pos + 1) []))
      else refuse .flagUnrecognized letter
  | .groupName span start name => s.feedGroupName span start name c
  | .groupFlags span inner items => s.feedGroupFlags span inner items c
  | .bracketOpen start negated _ union => .ok (s.feedBracketOpen start negated union c)
  | .bracket => .ok (s.feedBracket c)
  | .twin char _ => .ok (s.feedTwin char)
  | .afterAtom atom => .ok (s.pass (.dash atom s.pos false false))
  | .rangeEnd atom => s.feedRangeEnd atom c
  | _ => .ok s

/-! ### The machine -/

/-- The state after a character, outside the two constructions below. -/
def advance (s : Reader) (c : Char) : Except Complaint Reader := do
  if s.comment then return s.passComment c
  if s.skips c then return s.skip c
  let s ← s.settle (some c)
  -- What was settled may have ended a construction in which blanks count.
  if s.skips c then return s.skip c
  -- An escape that is over may leave an item of a bracket that is over, too.
  let s ← s.settle (some c)
  s.take c

/-- The state after a character, where a dash in a bracket may have to be settled first. -/
def advanceDash (s : Reader) (c : Char) : Except Complaint Reader :=
  match s.mode with
  | .dash atom start blank hash =>
      if s.verbose && (Unicode.isBlank c || (c == '#' && !hash)) then
        .ok (s.skipAfterDash atom start hash c)
      else do
        let s ← s.settleDash atom start (!blank) c
        s.advance c
  | _ => s.advance c

/-- Read what follows the bracket at `start` as the beginning of a bracket of its own. -/
def reread (s : Reader) (start : Position) (seen : List Char) : Except Complaint Reader :=
  seen.foldlM advanceDash
    { s with
      pos := start + 1
      mode := .bracketOpen start false .opening { span := .point start } }

/-- **The state after a character.**  A bracket inside a bracket may open an ASCII class; as long as
it may, what follows it is only collected. -/
def feed (s : Reader) (c : Char) : Except Complaint Reader :=
  match s.mode with
  | .asciiName start seen =>
      let seen := seen ++ [c]
      match asciiClass? seen with
      | some (kind, negated) =>
          let stop := s.pos + 1
          .ok ({ s with pos := stop }.pushBracket (.ascii ⟨start, stop⟩ kind negated))
      | none =>
          if beginsAsciiClass seen then .ok (s.pass (.asciiName start seen))
          else s.reread start seen
  | _ => s.advanceDash c

/-- The state after all characters of a text. -/
def feedAll (s : Reader) (text : List Char) : Except Complaint Reader := text.foldlM feed s

@[simp] theorem feedAll_nil (s : Reader) : s.feedAll [] = .ok s := rfl

@[simp] theorem feedAll_cons (s : Reader) (c : Char) (text : List Char) :
    s.feedAll (c :: text) = s.feed c >>= fun t => t.feedAll text := rfl

/-- **Reading a concatenation is reading its parts in turn.** -/
theorem feedAll_append (s : Reader) (text rest : List Char) :
    s.feedAll (text ++ rest) = s.feedAll text >>= fun t => t.feedAll rest := by
  simp [feedAll]

/-- What the end of the text leaves of a state: the expression, or what is unfinished. -/
def finishMode (s : Reader) : Except Complaint Pattern :=
  match s.mode with
  | .main => s.finishLevel
  | .escape start => refuse .escapeUnfinished ⟨start, s.pos⟩
  | .hex .. | .hexFixed .. | .property .. | .propertyName .. =>
      refuse .escapeUnfinished (.point s.pos)
  | .hexBraced _ brace .. => refuse .escapeUnfinished ⟨brace, s.pos⟩
  | .boundaryName _ brace .. => refuse .boundaryUnclosed ⟨brace, s.pos⟩
  | .groupQuestion span _ => refuse .groupUnclosed span
  | .groupAngle _ | .groupName .. => refuse .groupNameUnfinished (.point s.pos)
  | .groupLetter _ letter => refuse .flagUnrecognized letter
  | .groupFlags .. => refuse .flagUnfinished (.point s.pos)
  | .bracketOpen start _ stage _ =>
      refuse .bracketUnclosed ⟨start, if stage = .dash then start else s.pos⟩
  | _ => s.bracketUnclosed

/-- **The end of the text.** -/
def finish (s : Reader) : Except Complaint Pattern := do
  let s ← match s.mode with
    | .asciiName start seen => s.reread start seen
    | _ => pure s
  let s ← s.settle none
  let s ← s.settle none
  s.finishMode

end Reader

/-- **The expression that a text is, or what is wrong with it.** -/
def Pattern.read (text : List Char) : Except Complaint Pattern := do
  let reader ← Reader.feedAll {} text
  let pattern ← reader.finish
  match pattern.tooDeep? 0 with
  | some span => .error { fault := .nestLimitExceeded, span }
  | none => return pattern

end ParamTemplate.Regex
