/-
**Text with styles.**

A text for a terminal is a list of marks: characters, changes of the style and returns to the plain
style.  With colour, each change of the style is written as a return to the plain style and the
sequence for the style; without colour only the characters are written.

Main definitions:

* `Text.Style`, `Text.Mark`, `Text.Styled` — styles, marks and texts with styles;
* `Text.Styled.render` — a text with styles as it is written, with or without colour.

Main statement:

* `Text.Styled.render_append` — parts are written one after the other.
-/

set_option autoImplicit false

namespace ParamTemplate.Text

/-- A style. -/
inductive Style where
  | bold
  | dim
  | red
  | green
  | yellow
  | cyan
deriving DecidableEq, Repr

/-- The number of a style in an escape sequence. -/
def Style.number : Style → List Char
  | bold => ['1']
  | dim => ['2']
  | red => ['3', '1']
  | green => ['3', '2']
  | yellow => ['3', '3']
  | cyan => ['3', '6']

/-- A part of a text with styles. -/
inductive Mark where
  | chars (chars : List Char)
  | style (style : Style)
  | plain
deriving DecidableEq, Repr

/-- A text with styles. -/
abbrev Styled := List Mark

namespace Styled

/-- The escape sequence with a number. -/
def sequence (number : List Char) : List Char := '\x1b' :: '[' :: number ++ ['m']

/-- A part as it is written. -/
def renderMark (color : Bool) : Mark → List Char
  | .chars chars => chars
  | .style style => if color then sequence ['0'] ++ sequence style.number else []
  | .plain => if color then sequence ['0'] else []

/-- **A text with styles as it is written.** -/
def render (color : Bool) (text : Styled) : List Char := text.flatMap (renderMark color)

@[simp] theorem render_nil (color : Bool) : render color [] = [] := rfl

@[simp] theorem render_cons (color : Bool) (mark : Mark) (text : Styled) :
    render color (mark :: text) = renderMark color mark ++ render color text := List.flatMap_cons ..

/-- **Parts are written one after the other.** -/
@[simp] theorem render_append (color : Bool) (text rest : Styled) :
    render color (text ++ rest) = render color text ++ render color rest := List.flatMap_append ..

/-- Characters without a style. -/
def raw (chars : List Char) : Styled := [.chars chars]

/-- Characters in a style, with a return to the plain one. -/
def styled (style : Style) (chars : List Char) : Styled := [.style style, .chars chars, .plain]

end Styled

end ParamTemplate.Text
