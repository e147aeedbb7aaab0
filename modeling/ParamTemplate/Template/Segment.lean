/-
**Segments: the pieces of a template as parts of one expression.**

Every segment is an expression.  A literal stands in the assembled expression as it is written; a
placeholder is put in a group of its own.  The number of that group is found by counting the groups
of all segments before it.

The body of a placeholder is its name and its expression, with a comma between them; without a comma
it is the name alone, and the expression is the default one.

Main definitions:

* `Template.splitBody` — the name and the expression of a placeholder;
* `Template.Segment` — the segments;
* `Template.Segment.ofPieces` — the segments of a list of pieces;
* `Template.Segment.source`, `Template.assemble` — the expression that is assembled from segments.
-/

import ParamTemplate.Regex
import ParamTemplate.Template.Piece

set_option autoImplicit false

namespace ParamTemplate.Template

/-! ### Placeholders -/

/-- The expression of a placeholder that has none. -/
def defaultPattern : List Char := ['.', '*']

/-- The name and the expression of a placeholder. -/
def splitBody : List Char → List Char × List Char
  | [] => ([], defaultPattern)
  | c :: rest =>
      if c = ',' then ([], rest)
      else
        let (name, pattern) := splitBody rest
        (c :: name, pattern)

/-- **A body with a comma is split at the first one.** -/
theorem splitBody_append {name : List Char} (h : ',' ∉ name) (pattern : List Char) :
    splitBody (name ++ ',' :: pattern) = (name, pattern) := by
  induction name with
  | nil => rfl
  | cons c name ih =>
      have head : c ≠ ',' := fun he => h (he ▸ List.mem_cons_self ..)
      rw [List.cons_append, splitBody, if_neg head, ih fun hm => h (List.mem_cons_of_mem _ hm)]

/-- **A body without a comma is a name.** -/
theorem splitBody_of_not_mem {body : List Char} (h : ',' ∉ body) :
    splitBody body = (body, defaultPattern) := by
  induction body with
  | nil => rfl
  | cons c body ih =>
      have head : c ≠ ',' := fun he => h (he ▸ List.mem_cons_self ..)
      rw [splitBody, if_neg head, ih fun hm => h (List.mem_cons_of_mem _ hm)]

/-! ### Segments -/

/-- What a segment is. -/
inductive SegmentKind where
  | literal
  /-- A placeholder with the number of its group. -/
  | placeholder (name : List Char) (index : Nat)
deriving DecidableEq

/-- A part of the assembled expression. -/
structure Segment where
  kind : SegmentKind
  /-- The expression. -/
  body : List Char
  /-- How many segments are before it. -/
  position : Nat
  /-- The number of groups of the expression, if it is accepted on its own. -/
  groupCount? : Option Nat
deriving DecidableEq

namespace Segment

/-- The name of a placeholder. -/
def name? (segment : Segment) : Option (List Char) :=
  match segment.kind with
  | .literal => none
  | .placeholder name _ => some name

/-- The number of the group of a placeholder. -/
def index? (segment : Segment) : Option Nat :=
  match segment.kind with
  | .literal => none
  | .placeholder _ index => some index

/-- Whether a segment is a placeholder. -/
def isPlaceholder (segment : Segment) : Bool := segment.name?.isSome

/-- The segment of a piece; `next` is the number of the next group. -/
def ofPiece (next position : Nat) : Piece → Segment
  | .literal text =>
      { kind := .literal, body := text, position, groupCount? := Regex.groupCount? text }
  | .placeholder body =>
      let (name, pattern) := splitBody body
      { kind := .placeholder name next, body := pattern, position,
        groupCount? := Regex.groupCount? pattern }

/-- How many groups a segment has in the assembled expression, its own one included. -/
def width (segment : Segment) : Nat :=
  segment.groupCount?.getD 0 + if segment.isPlaceholder then 1 else 0

/-- The segments of a list of pieces; `next` is the number of the next group. -/
def ofPiecesFrom (next position : Nat) : List Piece → List Segment
  | [] => []
  | piece :: rest =>
      let segment := ofPiece next position piece
      segment :: ofPiecesFrom (next + segment.width) (position + 1) rest

/-- **The segments of a list of pieces.**  Group 0 is the whole match, so the first group has the
number 1. -/
def ofPieces (pieces : List Piece) : List Segment := ofPiecesFrom 1 0 pieces

@[simp] theorem length_ofPiecesFrom (next position : Nat) (pieces : List Piece) :
    (ofPiecesFrom next position pieces).length = pieces.length := by
  induction pieces generalizing next position with
  | nil => rfl
  | cons piece rest ih => simp [ofPiecesFrom, ih]

/-- **There are as many segments as pieces.** -/
@[simp] theorem length_ofPieces (pieces : List Piece) :
    (ofPieces pieces).length = pieces.length := length_ofPiecesFrom ..

/-- What a segment contributes to the assembled expression. -/
def source (segment : Segment) : List Char :=
  if segment.isPlaceholder then '(' :: segment.body ++ [')'] else segment.body

end Segment

/-- **The expression that is assembled from segments.** -/
def assemble (segments : List Segment) : List Char := segments.flatMap Segment.source

@[simp] theorem assemble_nil : assemble [] = [] := rfl

@[simp] theorem assemble_cons (segment : Segment) (rest : List Segment) :
    assemble (segment :: rest) = segment.source ++ assemble rest := List.flatMap_cons ..

end ParamTemplate.Template
