/-
**Positions and spans in the text of an expression.**

A position is given by the number of characters before it.  For people to read it becomes a line and
a column; that is the task of `ParamTemplate.Regex.Diagnostic`.

Main definitions:

* `Regex.Position` — a place between two characters of a text;
* `Regex.Span` — the part of a text between two positions.
-/

set_option autoImplicit false

namespace ParamTemplate.Regex

/-- A place between two characters of a text: the number of characters before it. -/
abbrev Position := Nat

/-- The part of a text from `start` up to `stop`. -/
structure Span where
  start : Position
  stop : Position
deriving DecidableEq, Repr

namespace Span

/-- The empty part at a position. -/
def point (p : Position) : Span := ⟨p, p⟩

/-- The part made of the character at a position alone. -/
def ofChar (p : Position) : Span := ⟨p, p + 1⟩

/-- The same part, reaching up to `p`. -/
def upTo (s : Span) (p : Position) : Span := ⟨s.start, p⟩

end Span

end ParamTemplate.Regex
