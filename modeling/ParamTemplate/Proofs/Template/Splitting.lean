/-
**Every template is what its parts are written as.**

`Proofs/Template/Printing` starts from a list of parts and cuts what is written.  Here it is the
other way round: every template, balanced or not, is split into a well-formed list of parts that is
written exactly as the template.  Nothing of it is lost, written twice or moved.

The parts of a longer template are found from those of a shorter one: a character only ever changes
the last part.  It is added to the text of that part, unless it is the second half of a delimiter.
Then the first half, which until now was the end of the text, is taken back.  The invariant is that
the list of parts stays well formed; it already says that the first half was not escaped, and that
no other brace before it could have been the first half.

Main definitions:

* `Template.extend`, `Template.split` — the parts of a template, character by character;
* `Template.Delimited` — what it means that no delimiter has been overlooked.

Main results:

* `Template.print_split` — the parts of a template are written as the template;
* `Template.wellFormed_split` — they are well formed;
* `Template.exists_delimited_parts` — **cutting loses, duplicates and moves nothing**.
-/

import Mathlib.Data.List.Induction
import Mathlib.Data.List.Chain
import ParamTemplate.Proofs.Template.Printing

set_option autoImplicit false

namespace ParamTemplate.Template

/-- The text of a piece. -/
def Piece.text : Piece → List Char
  | .literal text | .placeholder text => text

variable {text body : List Char} {parts : List Part}

/-! ### One more character -/

theorem openers_append (before : Option Char) (text rest : List Char) :
    openers before (text ++ rest) =
      openers before text ++ openers (text.getLast?.or before) rest := by
  induction text generalizing before with
  | nil => simp [openers]
  | cons c text ih => cases text <;> simp_all [openers, List.getLast?_cons]

theorem closers_append (before : Option Char) (depth : Nat) (body rest : List Char) :
    closers before depth (body ++ rest) = closers before depth body ++
      closers (body.getLast?.or before) (finalDepth before depth body) rest := by
  induction body generalizing before depth with
  | nil => simp [closers, finalDepth]
  | cons c body ih => cases body <;> simp_all [closers, finalDepth, List.getLast?_cons]

theorem sparse_append (marks rest : List Bool) : Sparse (marks ++ rest) ↔
    Sparse marks ∧ Sparse rest ∧ ¬(marks.getLast? = some true ∧ rest.head? = some true) := by
  simp only [Sparse, List.isChain_append]
  refine and_congr_right fun _ => and_congr_right fun _ => ?_
  constructor
  · rintro h ⟨hlast, hhead⟩
    exact h true hlast true hhead ⟨rfl, rfl⟩
  · rintro h a ha b hb ⟨rfl, rfl⟩
    exact h ⟨ha, hb⟩

/-- What ends in an opening brace that is not escaped, without that brace. -/
theorem exists_of_getLast?_openers (h : (openers none text).getLast? = some true) :
    ∃ start, text = start ++ ['{'] ∧ start.getLast? ≠ some '\\' := by
  rcases List.eq_nil_or_concat text with rfl | ⟨start, c, rfl⟩
  · simp [openers] at h
  · rw [List.concat_eq_append, openers_append] at *
    simp only [openers, List.getLast?_append, List.getLast?_singleton, Option.some_or,
      Option.some.injEq, isOpener, Option.or_none, Bool.and_eq_true, decide_eq_true_eq] at h
    exact ⟨start, by rw [h.1], by simpa using h.2⟩

/-- What ends in a closing brace that is read where no brace is open, without that brace. -/
theorem exists_of_getLast?_closers (h : (closers none 0 body).getLast? = some true) :
    ∃ start, body = start ++ ['}'] ∧ finalDepth none 0 start = 0 := by
  rcases List.eq_nil_or_concat body with rfl | ⟨start, c, rfl⟩
  · simp [closers] at h
  · rw [List.concat_eq_append, closers_append] at *
    simp only [closers, List.getLast?_append, List.getLast?_singleton, Option.some_or,
      Option.some.injEq, Bool.and_eq_true, decide_eq_true_eq] at h
    exact ⟨start, by rw [h.1], h.2⟩

/-! ### The parts of a template -/

/-- The parts that the last part becomes by one more character: it is the second half of a delimiter
if the text of the part ends in the first half. -/
def Part.extend : Part → Char → List Part
  | .literal text, c =>
      if c = '{' ∧ (openers none text).getLast? = some true then
        if text.dropLast = [] then [.unclosed []] else [.literal text.dropLast, .unclosed []]
      else [.literal (text ++ [c])]
  | .closed body, c => [.closed body, .literal [c]]
  | .unclosed body, c =>
      if c = '}' ∧ (closers none 0 body).getLast? = some true then [.closed body.dropLast]
      else [.unclosed (body ++ [c])]

/-- The parts of a template with one more character at its end. -/
def extend : List Part → Char → List Part
  | [], c => [.literal [c]]
  | [part], c => part.extend c
  | part :: next :: rest, c => part :: extend (next :: rest) c

/-- **The parts of a template.** -/
def split (template : List Char) : List Part := template.foldl extend []

@[simp] theorem split_nil : split [] = [] := rfl

@[simp] theorem split_append (template : List Char) (c : Char) :
    split (template ++ [c]) = extend (split template) c := by simp [split]

/-- A part is written with the character behind it. -/
theorem print_part_extend (part : Part) (c : Char) : print (part.extend c) = part.print ++ [c] := by
  fun_cases Part.extend part c with
  | case1 text _ h hnil =>
      obtain ⟨start, rfl, -⟩ := exists_of_getLast?_openers h.2
      obtain rfl : start = [] := by simpa using hnil
      simp [print, Part.print, h.1]
  | case2 text _ h =>
      obtain ⟨start, rfl, -⟩ := exists_of_getLast?_openers h.2
      simp [print, Part.print, h.1]
  | case3 => simp [print, Part.print]
  | case4 => simp [print, Part.print]
  | case5 c body h =>
      obtain ⟨start, rfl, -⟩ := exists_of_getLast?_closers h.2
      simp [print, Part.print, h.1]
  | case6 => simp [print, Part.print]

theorem print_extend (parts : List Part) (c : Char) :
    print (extend parts c) = print parts ++ [c] := by
  fun_induction extend parts c with
  | case1 => simp [print, Part.print]
  | case2 part => rw [print_part_extend, print_cons, print_nil, List.append_nil]
  | case3 part next rest c ih => rw [print_cons, ih, print_cons _ (next :: rest), List.append_assoc]

/-- **The parts of a template are written as the template.** -/
theorem print_split (template : List Char) : print (split template) = template := by
  induction template using List.reverseRecOn with
  | nil => rfl
  | append_singleton template c ih => rw [split_append, print_extend, ih]

/-- A literal text ends clear before its last brace, if that could be half of a delimiter. -/
theorem endsClear_of_sparse {marks : List Bool} (h : Sparse (marks ++ [true])) :
    Sparse marks ∧ EndsClear marks := by
  obtain ⟨hmarks, -, hlast⟩ := (sparse_append ..).1 h
  exact ⟨hmarks, fun hclear => hlast ⟨hclear, rfl⟩⟩

/-- One more character leaves a single part well formed. -/
theorem wellFormed_part_extend {part : Part} (h : WellFormed [part]) (c : Char) :
    WellFormed (part.extend c) := by
  fun_cases Part.extend part c with
  | case1 => exact ⟨.nil, rfl⟩
  | case2 text _ hopens hne =>
      obtain ⟨start, rfl, hesc⟩ := exists_of_getLast?_openers hopens.2
      obtain ⟨-, hsparse, -⟩ := h
      have hmarks : openers none (start ++ ['{']) = openers none start ++ [true] := by
        simpa [openers_append, openers, isOpener] using hesc
      -- The brace that is taken back was half of a delimiter, so the one before it was not.
      obtain ⟨hstart, hclear⟩ := endsClear_of_sparse (hmarks ▸ hsparse)
      rw [List.dropLast_concat] at hne ⊢
      exact ⟨hne, hstart, ⟨hclear, hesc⟩, .nil, rfl⟩
  | case3 c text hopens =>
      obtain ⟨hne, hsparse, -⟩ := h
      refine ⟨by simp, ?_, trivial, trivial⟩
      rw [openers_append, sparse_append]
      -- Behind half of a delimiter the other half would not have been added to the text.
      refine ⟨hsparse, .singleton _, ?_⟩
      rintro ⟨hlast, hhead⟩
      simp only [openers, List.head?_cons, Option.some.injEq, isOpener, Bool.and_eq_true,
        decide_eq_true_eq] at hhead
      exact hopens ⟨hhead.1, hlast⟩
  | case4 c body =>
      obtain ⟨hsparse, hdepth, hclear, -⟩ := h
      exact ⟨hsparse, hdepth, hclear, by simp, .singleton _, trivial, trivial⟩
  | case5 c body hcloses =>
      obtain ⟨start, rfl, hdepth⟩ := exists_of_getLast?_closers hcloses.2
      obtain ⟨hsparse, -⟩ := h
      have hmarks : closers none 0 (start ++ ['}']) = closers none 0 start ++ [true] := by
        simp [closers_append, closers, hdepth]
      obtain ⟨hstart, hclear⟩ := endsClear_of_sparse (hmarks ▸ hsparse)
      rw [List.dropLast_concat]
      exact ⟨hstart, hdepth, hclear, trivial⟩
  | case6 c body hcloses =>
      obtain ⟨hsparse, -⟩ := h
      refine ⟨?_, rfl⟩
      rw [closers_append, sparse_append]
      refine ⟨hsparse, .singleton _, ?_⟩
      rintro ⟨hlast, hhead⟩
      simp only [closers, List.head?_cons, Option.some.injEq, Bool.and_eq_true,
        decide_eq_true_eq] at hhead
      exact hcloses ⟨hhead.1, hlast⟩

/-- What stands before a placeholder still does when there is one more character: a placeholder
remains a placeholder. -/
theorem FitsBefore.extend {part : Part} {rest : List Part} (h : FitsBefore text (part :: rest))
    (c : Char) : FitsBefore text (extend (part :: rest) c) := by
  cases part with
  | literal other => exact h.elim
  | closed body => cases rest <;> exact h
  | unclosed body =>
      cases rest with
      | nil =>
          rw [Template.extend, Part.extend]
          split <;> exact h
      | cons next rest => exact h

theorem wellFormed_extend (h : WellFormed parts) (c : Char) : WellFormed (extend parts c) := by
  fun_induction extend parts c with
  | case1 => exact ⟨by simp, .singleton _, trivial, trivial⟩
  | case2 part => exact wellFormed_part_extend h _
  | case3 part next rest c ih =>
      cases part with
      | literal text =>
          obtain ⟨hne, hsparse, hfits, hrest⟩ := h
          exact ⟨hne, hsparse, hfits.extend _, ih hrest⟩
      | closed body =>
          obtain ⟨hsparse, hdepth, hclear, hrest⟩ := h
          exact ⟨hsparse, hdepth, hclear, ih hrest⟩
      | unclosed body => exact absurd h.2 (List.cons_ne_nil next rest)

/-- **The parts of a template are well formed,** also if its braces are not balanced. -/
theorem wellFormed_split (template : List Char) : WellFormed (split template) := by
  induction template using List.reverseRecOn with
  | nil => trivial
  | append_singleton template c ih => rw [split_append]; exact wellFormed_extend ih c

/-! ### What a well-formed list of parts does not hide -/

/-- A literal text has no two adjacent opening braces of which the first is not escaped. -/
theorem getLast?_of_sparse (h : Sparse (openers none text)) {start rest : List Char}
    (htext : text = start ++ '{' :: '{' :: rest) : start.getLast? = some '\\' := by
  by_contra hesc
  have hmarks : openers none text = openers none start ++
      true :: true :: openers (some '{') rest := by
    simpa [htext, openers_append, openers, isOpener] using hesc
  obtain ⟨-, hpair, -⟩ := (sparse_append ..).1 (hmarks ▸ h)
  exact (List.isChain_cons_cons.1 hpair).1 ⟨rfl, rfl⟩

/-- A body has no two adjacent closing braces that are read where no brace is open. -/
theorem finalDepth_of_sparse (h : Sparse (closers none 0 body)) {start rest : List Char}
    (hbody : body = start ++ '}' :: '}' :: rest) : finalDepth none 0 start ≠ 0 := by
  intro hdepth
  have hmarks : closers none 0 body = closers none 0 start ++
      true :: true :: closers (some '}') 0 rest := by
    simp [hbody, closers_append, closers, hdepth, depthAfter, isOpener]
  obtain ⟨-, hpair, -⟩ := (sparse_append ..).1 (hmarks ▸ h)
  exact (List.isChain_cons_cons.1 hpair).1 ⟨rfl, rfl⟩

/-- Whether a part is literal text. -/
def Part.isLiteral : Part → Bool
  | .literal _ => true
  | .closed _ | .unclosed _ => false

/-- **No delimiter has been overlooked, and none is written without need.** -/
structure Delimited (parts : List Part) : Prop where
  literal_ne_nil {text : List Char} : .literal text ∈ parts → text ≠ []
  /-- No two literal texts are neighbours. -/
  literals_apart : parts.IsChain fun part next => ¬(part.isLiteral ∧ next.isLiteral)
  /-- Where two opening braces stand in a literal text, the first one is escaped. -/
  literal_opens {start rest : List Char} :
    .literal (start ++ '{' :: '{' :: rest) ∈ parts → start.getLast? = some '\\'
  /-- Where two closing braces stand in a body, braces are open that are nested in it. -/
  body_closes {start rest : List Char} :
    .closed (start ++ '}' :: '}' :: rest) ∈ parts ∨
        .unclosed (start ++ '}' :: '}' :: rest) ∈ parts →
      finalDepth none 0 start ≠ 0
  /-- Only the last placeholder may be left unclosed. -/
  unclosed_last {body : List Char} {before after : List Part} :
    parts = before ++ .unclosed body :: after → after = []

/-- What is true of a part and the parts behind it. -/
theorem Delimited.cons {part : Part} (h : Delimited parts)
    (hne : ∀ text, part = .literal text → text ≠ [])
    (hapart : ∀ next ∈ parts.head?, ¬(part.isLiteral ∧ next.isLiteral))
    (hopens : ∀ text, part = .literal text → Sparse (openers none text))
    (hcloses : ∀ body, part = .closed body ∨ part = .unclosed body → Sparse (closers none 0 body))
    (hlast : ∀ body, part = .unclosed body → parts = []) : Delimited (part :: parts) where
  literal_ne_nil hmem := by
    rcases List.mem_cons.1 hmem with heq | hmem
    · exact hne _ heq.symm
    · exact h.literal_ne_nil hmem
  literals_apart := List.isChain_cons.2 ⟨hapart, h.literals_apart⟩
  literal_opens hmem := by
    rcases List.mem_cons.1 hmem with heq | hmem
    · exact getLast?_of_sparse (hopens _ heq.symm) rfl
    · exact h.literal_opens hmem
  body_closes hmem := by
    rw [List.mem_cons, List.mem_cons] at hmem
    rcases hmem with (heq | hmem) | heq | hmem
    · exact finalDepth_of_sparse (hcloses _ (.inl heq.symm)) rfl
    · exact h.body_closes (.inl hmem)
    · exact finalDepth_of_sparse (hcloses _ (.inr heq.symm)) rfl
    · exact h.body_closes (.inr hmem)
  unclosed_last := by
    intro body before after heq
    cases before with
    | nil =>
        obtain ⟨rfl, rfl⟩ := List.cons.inj heq
        exact hlast body rfl
    | cons first before => exact h.unclosed_last (List.cons.inj heq).2

/-- A well-formed list of parts overlooks no delimiter. -/
theorem WellFormed.delimited (h : WellFormed parts) : Delimited parts := by
  induction parts with
  | nil => exact ⟨nofun, .nil, nofun, by simp, by simp⟩
  | cons part rest ih =>
      cases part with
      | literal text =>
          obtain ⟨hne, hsparse, hfits, hrest⟩ := h
          refine (ih hrest).cons (by simpa using hne) ?_ (by simpa using hsparse) (by simp)
            (by simp)
          intro next hnext
          cases rest with
          | nil => simp at hnext
          | cons other rest =>
              obtain rfl : other = next := by simpa using hnext
              cases other with
              | literal third => exact hfits.elim
              | closed body => simp [Part.isLiteral]
              | unclosed body => simp [Part.isLiteral]
      | closed body =>
          obtain ⟨hsparse, -, -, hrest⟩ := h
          exact (ih hrest).cons (by simp) (by simp [Part.isLiteral]) (by simp)
            (by simpa using hsparse) (by simp)
      | unclosed body =>
          obtain ⟨hsparse, rfl⟩ := h
          exact (ih trivial).cons (by simp) (by simp) (by simp) (by simpa using hsparse) (by simp)

/-! ### The result -/

/-- The pieces of a part have text. -/
theorem Part.text_ne_nil {part : Part} {piece : Piece} (h : piece ∈ part.pieces) :
    piece.text ≠ [] := by
  rw [pieces] at h
  split at h
  · simp at h
  · rename_i htext
    obtain rfl := List.mem_singleton.1 h
    cases part <;> simpa [Part.piece, Piece.text, Part.text] using htext

open Cutter in
/-- **Cutting loses, duplicates and moves nothing.**  Every template is what a list of parts is
written as, in which no delimiter has been overlooked, and cutting it gives the pieces of these
parts.  Pieces have text. -/
theorem exists_delimited_parts (template : List Char) :
    (∃ parts, print parts = template ∧ Delimited parts ∧
      Piece.cut template = parts.flatMap Part.pieces) ∧
    ∀ piece ∈ Piece.cut template, piece.text ≠ [] := by
  have hcut : Piece.cut template = (split template).flatMap Part.pieces := by
    have hstart : ({} : Cutter) = outside [] [] := rfl
    have h := finish_outside_print (wellFormed_split template) [] (by simp) []
    rw [print_split] at h
    rw [Piece.cut, hstart, h]
    simp
  refine ⟨⟨split template, print_split template, (wellFormed_split template).delimited, hcut⟩, ?_⟩
  intro piece hpiece
  rw [hcut] at hpiece
  obtain ⟨part, -, hpiece⟩ := List.mem_flatMap.1 hpiece
  exact Part.text_ne_nil hpiece

/-- Unbalanced braces: what follows a delimiter starts anew. -/
example : split "\x7b\x7b\x7ba\x7d\x7d\x7d\x7b\x7b\x7b\\\x7b".toList =
    [.closed "\x7ba\x7d".toList, .unclosed "\x7b\\\x7b".toList] := by decide

end ParamTemplate.Template
