/-
**Showing where an expression is wrong.**

The expression is printed with carets under the places of a complaint.  An expression of one line is
indented; of one with line feeds every line is numbered, the whole stands between two rules, and a
place that does not end on the line on which it starts is described in words.

Main definitions:

* `Regex.Place`, `Regex.Region` — a position and a span by lines and columns;
* `Regex.carets` — the line of carets under a line;
* `Regex.Complaint.render` — the expression with its complaint.
-/

import ParamTemplate.Regex.Fault
import ParamTemplate.Text.Lines

set_option autoImplicit false

namespace ParamTemplate.Regex

/-! ### Lines and columns -/

/-- A position by its line and its column, both counted from one. -/
structure Place where
  line : Nat
  column : Nat
deriving DecidableEq, Repr

/-- The place after the character `c`, which stands at `p`. -/
def Place.next (p : Place) (c : Char) : Place :=
  if c = '\n' then ⟨p.line + 1, 1⟩ else ⟨p.line, p.column + 1⟩

/-- The place of a position in a text. -/
def Place.of (source : List Char) (p : Position) : Place :=
  (source.take p).foldl Place.next ⟨1, 1⟩

/-- A span by the places of its ends. -/
structure Region where
  start : Place
  stop : Place
deriving DecidableEq, Repr

/-- The region of a span in a text. -/
def Span.region (source : List Char) (s : Span) : Region where
  start := Place.of source s.start
  stop := Place.of source s.stop

/-- Whether a region ends on the line on which it starts. -/
def Region.isOneLine (r : Region) : Bool := r.start.line = r.stop.line

/-! ### Carets -/

/-- A number in decimal digits. -/
def decimal (n : Nat) : List Char := Nat.toDigits 10 n

/-- Whether one place comes before another: it starts before it, or starts with it and does not end
after it. -/
def Span.precedes (s t : Span) : Bool :=
  s.start < t.start || (s.start = t.start && s.stop ≤ t.stop)

/-- The places of a complaint in the order in which they stand. -/
def Complaint.places (c : Complaint) : List Span :=
  match c.earlier with
  | none => [c.span]
  | some other => if other.precedes c.span then [other, c.span] else [c.span, other]

/-- Carets under the regions on a line, where `column` characters have been written; a region
without characters gets one caret. -/
def carets (column : Nat) : List Region → List Char
  | [] => []
  | region :: rest =>
      let blanks := region.start.column - 1 - column
      let marks := max 1 (region.stop.column - region.start.column)
      List.replicate blanks ' ' ++ List.replicate marks '^' ++
        carets (column + blanks + marks) rest

/-- The line of carets under line `number`, indented; none if there is no region on the line. -/
def caretLine (indent : Nat) (regions : List Region) (number : Nat) : List Char :=
  match regions.filter fun region => region.isOneLine && region.start.line == number with
  | [] => []
  | found => List.replicate indent ' ' ++ carets 0 found ++ ['\n']

/-- A number in decimal digits, with blanks in front up to a width. -/
def padded (width n : Nat) : List Char :=
  List.replicate (width - (decimal n).length) ' ' ++ decimal n

/-- The lines of an expression, each with the carets under it.  A `width` of zero means that lines
are not numbered. -/
def notated (width : Nat) (regions : List Region) (number : Nat) : List (List Char) → List Char
  | [] => []
  | line :: rest =>
      let label := if width = 0 then List.replicate 4 ' ' else padded width number ++ [':', ' ']
      label ++ line ++ ['\n'] ++ caretLine (if width = 0 then 4 else width + 2) regions number ++
        notated width regions (number + 1) rest

/-- A region that does not end on the line on which it starts, in words. -/
def Region.describe (r : Region) : List Char :=
  "on line ".toList ++ decimal r.start.line ++ " (column ".toList ++ decimal r.start.column ++
    ") through line ".toList ++ decimal r.stop.line ++ " (column ".toList ++
    decimal (r.stop.column - 1) ++ ")".toList

/-- The number of lines on which a region can stand; after a last line feed there is one more. -/
def lineCount (source : List Char) : Nat :=
  (Text.lines source).length + if source.getLast? = some '\n' then 1 else 0

/-- **An expression with its complaint.** -/
def Complaint.render (c : Complaint) (source : List Char) : List Char :=
  let heading := "regex parse error:\n".toList
  let verdict := "error: ".toList ++ c.fault.message.toList
  let count := lineCount source
  let width := if count ≤ 1 then 0 else (decimal count).length
  let regions := c.places.map (Span.region source)
  let body := notated width regions 1 (Text.lines source)
  if source.contains '\n' then
    let rule := List.replicate 79 '~' ++ ['\n']
    let described := (regions.filter fun region => !region.isOneLine).flatMap fun region =>
      region.describe ++ ['\n']
    heading ++ rule ++ body ++ rule ++ described ++ verdict
  else heading ++ body ++ verdict

end ParamTemplate.Regex
