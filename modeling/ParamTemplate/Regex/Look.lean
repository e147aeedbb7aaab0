/-
**Assertions on a place in a text.**

An assertion looks only at the two characters beside a place: the one before it and the one after
it, of which either may be missing.

Main definitions:

* `Regex.Look` — the assertions;
* `Regex.Look.holds` — whether an assertion holds between two characters.
-/

import ParamTemplate.Unicode.Basic

set_option autoImplicit false

namespace ParamTemplate.Regex

/-- What is asked of the two sides of a place with respect to words. -/
inductive WordSides where
  | boundary
  | notBoundary
  | start
  | stop
  | startHalf
  | stopHalf
deriving DecidableEq

/-- The assertions.  Those on words know the word characters of all scripts, or of ASCII only. -/
inductive Look where
  | textStart
  | textEnd
  | lineStart
  | lineEnd
  | crlfLineStart
  | crlfLineEnd
  | word (sides : WordSides) (ascii : Bool)
deriving DecidableEq

namespace Look

/-- Whether there is a word character on a side. -/
def isWord (ascii : Bool) : Option Char → Bool
  | none => false
  | some c => if ascii then c.isAlphanum || c == '_' else Unicode.words.contains c

/-- What is asked of the two sides, when it is known on which there are word characters. -/
def wordHolds (sides : WordSides) (before after : Bool) : Bool :=
  match sides with
  | .boundary => before != after
  | .notBoundary => before == after
  | .start => !before && after
  | .stop => before && !after
  | .startHalf => !before
  | .stopHalf => !after

/-- **Whether an assertion holds between two characters,** of which one may be missing at an end of
the text.  Where lines end in two characters, there is no line end between the two. -/
def holds (look : Look) (before after : Option Char) : Bool :=
  match look with
  | textStart => before.isNone
  | textEnd => after.isNone
  | lineStart => before.isNone || before == some '\n'
  | lineEnd => after.isNone || after == some '\n'
  | crlfLineStart =>
      before.isNone || before == some '\n' || (before == some '\r' && after != some '\n')
  | crlfLineEnd =>
      after.isNone || after == some '\r' || (after == some '\n' && before != some '\r')
  | word sides ascii => wordHolds sides (isWord ascii before) (isWord ascii after)

end Look

end ParamTemplate.Regex
