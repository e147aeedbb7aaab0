/-
**The pieces of a template.**

A template is literal text with placeholders in it, which stand between two opening and two closing
braces.  It is cut into pieces from left to right, after its escaped braces have been hidden.  A
single brace that could be the first half of a delimiter is held back until the next character tells
whether it is one.  Inside a placeholder an opening brace nests, and a closing brace closes what is
nested before it can be part of the delimiter; outside nothing nests.

A placeholder that is not closed ends with the template.  Pieces without text are left out.

Main definitions:

* `Template.Piece` — the pieces;
* `Template.Cutter`, `Template.Cutter.feed`, `Template.Cutter.finish` — what is known after some
  characters;
* `Template.Piece.cut` — the pieces of a template.
-/

import ParamTemplate.Template.Token

set_option autoImplicit false

namespace ParamTemplate.Template

/-- A piece of a template. -/
inductive Piece where
  | literal (text : List Char)
  | placeholder (body : List Char)
deriving DecidableEq, Repr

/-- What is known after some characters of a template. -/
structure Cutter where
  /-- Whether a placeholder is open. -/
  inside : Bool := false
  /-- Whether a brace is held back: an opening one outside, a closing one inside. -/
  held : Bool := false
  /-- How many nested braces are open. -/
  depth : Nat := 0
  /-- The characters of the piece that is being read, in reverse order. -/
  buffer : List Char := []
  /-- The pieces that are complete, in reverse order. -/
  pieces : List Piece := []
deriving DecidableEq, Repr

namespace Cutter

/-- The piece that is being read. -/
def current (s : Cutter) : Piece :=
  let text := decode s.buffer.reverse
  if s.inside then .placeholder text else .literal text

/-- Complete the piece that is being read, unless it has no text. -/
def flush (s : Cutter) : Cutter :=
  if s.buffer.isEmpty then s else { s with buffer := [], pieces := s.current :: s.pieces }

/-- The brace that can be held back. -/
def brace (s : Cutter) : Char := if s.inside then '}' else '{'

/-- A brace that was held back is text. -/
def release (s : Cutter) : Cutter :=
  if s.held then { s with held := false, buffer := s.brace :: s.buffer } else s

/-- A character that is text. -/
def push (s : Cutter) (c : Char) : Cutter := { s with buffer := c :: s.buffer }

/-- A brace that can be half of a delimiter: the second one opens or closes a placeholder. -/
def delimit (s : Cutter) : Cutter :=
  if s.held then { ({ s with held := false } : Cutter).flush with inside := !s.inside }
  else { s with held := true }

/-- A character outside of placeholders. -/
def feedLiteral (s : Cutter) (c : Char) : Cutter :=
  if c = '{' then s.delimit else s.release.push c

/-- A character inside of a placeholder. -/
def feedPlaceholder (s : Cutter) (c : Char) : Cutter :=
  if c = '}' then
    if 0 < s.depth then { s with depth := s.depth - 1 }.push c else s.delimit
  else
    let s := s.release
    if c = '{' then { s with depth := s.depth + 1 }.push c else s.push c

/-- The next character. -/
def feed (s : Cutter) (c : Char) : Cutter :=
  if s.inside then s.feedPlaceholder c else s.feedLiteral c

/-- The next characters. -/
def feedAll (s : Cutter) (text : List Char) : Cutter := text.foldl feed s

@[simp] theorem feedAll_nil (s : Cutter) : s.feedAll [] = s := rfl

@[simp] theorem feedAll_cons (s : Cutter) (c : Char) (text : List Char) :
    s.feedAll (c :: text) = (s.feed c).feedAll text := rfl

theorem feedAll_append (s : Cutter) (text rest : List Char) :
    s.feedAll (text ++ rest) = (s.feedAll text).feedAll rest := List.foldl_append ..

/-- The pieces, when there are no more characters. -/
def finish (s : Cutter) : List Piece := s.release.flush.pieces.reverse

end Cutter

/-- **The pieces of a template.** -/
def Piece.cut (template : List Char) : List Piece :=
  (Cutter.feedAll {} (encode template)).finish

end ParamTemplate.Template
