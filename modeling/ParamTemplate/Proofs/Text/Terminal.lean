/-
**What a terminal makes of a text with styles.**

A terminal shows the characters that are written to it.  An escape sequence is not shown: it begins
with the escape character and ends with its final character, and if that is an `m` it switches the
styles on whose numbers it gives, or all styles off by the number 0.  Every character is shown in
the styles that are on when it is written.

A text with styles says by itself in which style each of its characters is to be shown, and which
style is on behind it.  Written in colour it makes the terminal do what it says, provided that none
of its characters is the escape character.  Texts that leave no style on can be written one after
the other: none of them changes how another one is shown.

Main definitions:

* `Text.Terminal`, `Text.Terminal.feed` — a terminal, and what it does with a character;
* `Text.Terminal.display`, `Text.Terminal.visible` — what is shown, with and without the styles;
* `Text.Styled.cells`, `Text.Styled.styleAfter` — the characters of a text with their styles, and
  the style behind it;
* `Text.Styled.IsClear`, `Text.Styled.Closes` — texts without the escape character, and texts that
  leave no style on.

Main results:

* `Text.Terminal.feedAll_render` — **a terminal does what a text with styles says**;
* `Text.Terminal.display_flatMap` — closed texts are shown one after the other, each as it is shown
  by itself.
-/

import Mathlib.Data.List.Basic
import ParamTemplate.Text.Styled

set_option autoImplicit false

namespace ParamTemplate.Text

/-! ### Terminals -/

/-- How far an escape sequence has been read. -/
inductive Progress where
  /-- There is none. -/
  | shown
  /-- The escape character has been read. -/
  | escape
  /-- A control sequence has begun; these are its characters so far. -/
  | control (parameters : List Char)
deriving DecidableEq, Repr

/-- A character with the numbers of the styles that it is shown in, the last one first. -/
abbrev Cell := Char × List (List Char)

/-- A terminal. -/
structure Terminal where
  progress : Progress := .shown
  /-- The numbers of the styles that are on, the last one first. -/
  active : List (List Char) := []
  /-- What is shown, in reverse order. -/
  cells : List Cell := []
deriving DecidableEq, Repr

namespace Terminal

/-- The styles that are on after a number: 0, which may be left out, switches all off. -/
def select (active : List (List Char)) (number : List Char) : List (List Char) :=
  if number = [] ∨ number = ['0'] then [] else number :: active

/-- **What a terminal does with a character.** -/
def feed (t : Terminal) (c : Char) : Terminal :=
  match t.progress with
  | .shown =>
      if c = '\x1b' then { t with progress := .escape }
      else { t with cells := (c, t.active) :: t.cells }
  | .escape =>
      if c = '[' then { t with progress := .control [] }
      else if ' ' ≤ c ∧ c ≤ '/' then t
      else { t with progress := .shown }
  | .control parameters =>
      if '@' ≤ c ∧ c ≤ '~' then
        { t with
          progress := .shown
          active := if c = 'm' then (parameters.splitOn ';').foldl select t.active else t.active }
      else { t with progress := .control (parameters ++ [c]) }

/-- What a terminal does with several characters. -/
def feedAll (t : Terminal) (text : List Char) : Terminal := text.foldl feed t

@[simp] theorem feedAll_nil (t : Terminal) : t.feedAll [] = t := rfl

@[simp] theorem feedAll_cons (t : Terminal) (c : Char) (text : List Char) :
    t.feedAll (c :: text) = (t.feed c).feedAll text := rfl

theorem feedAll_append (t : Terminal) (text rest : List Char) :
    t.feedAll (text ++ rest) = (t.feedAll text).feedAll rest := List.foldl_append ..

/-- **What is shown** of a text that is written to a new terminal. -/
def display (text : List Char) : List Cell := (feedAll {} text).cells.reverse

/-- **A text without its escape sequences:** the characters that are shown. -/
def visible (text : List Char) : List Char := (display text).map Prod.fst

/-- **No style is on,** and no escape sequence has begun. -/
def IsReset (t : Terminal) : Prop := t.progress = .shown ∧ t.active = []

instance (t : Terminal) : Decidable t.IsReset := inferInstanceAs (Decidable (_ ∧ _))

end Terminal

/-! ### Texts with styles -/

namespace Styled

/-- The style that is on behind a text, if one is on before it. -/
def styleAfter (style? : Option Style) : Styled → Option Style
  | [] => style?
  | .chars _ :: rest => styleAfter style? rest
  | .style style :: rest => styleAfter (some style) rest
  | .plain :: rest => styleAfter none rest

/-- **The characters of a text with their styles,** if a style is on before it. -/
def cells (style? : Option Style) : Styled → List (Char × Option Style)
  | [] => []
  | .chars chars :: rest => chars.map (fun c => (c, style?)) ++ cells style? rest
  | .style style :: rest => cells (some style) rest
  | .plain :: rest => cells none rest

/-- Whether no character of a text is the escape character. -/
def IsClear (text : Styled) : Prop := '\x1b' ∉ text.render false

/-- Whether a text leaves no style on. -/
def Closes (text : Styled) : Prop := text.styleAfter none = none

variable {text rest : Styled} {chars : List Char} {style? : Option Style}

/-- Without colour the characters are written. -/
theorem map_fst_cells (style? : Option Style) (text : Styled) :
    (text.cells style?).map Prod.fst = text.render false := by
  induction text generalizing style? with
  | nil => rfl
  | cons mark rest ih =>
      cases mark with
      | chars chars =>
          have same : (chars.map fun c => (c, style?)).map Prod.fst = chars := by
            rw [List.map_map]
            exact List.map_id chars
          rw [cells, List.map_append, same, ih, render_cons]
          rfl
      | style style => exact ih _
      | plain => exact ih _

@[simp] theorem styleAfter_append (style? : Option Style) (text rest : Styled) :
    (text ++ rest).styleAfter style? = rest.styleAfter (text.styleAfter style?) := by
  induction text generalizing style? with
  | nil => rfl
  | cons mark text ih => cases mark <;> exact ih _

theorem cells_append (style? : Option Style) (text rest : Styled) :
    (text ++ rest).cells style? = text.cells style? ++ rest.cells (text.styleAfter style?) := by
  induction text generalizing style? with
  | nil => rfl
  | cons mark text ih =>
      cases mark with
      | chars chars =>
          rw [List.cons_append, cells, cells, ih, List.append_assoc]
          rfl
      | style style => exact ih _
      | plain => exact ih _

@[simp] theorem styleAfter_raw (style? : Option Style) (chars : List Char) :
    (raw chars).styleAfter style? = style? := rfl

@[simp] theorem styleAfter_styled (style? : Option Style) (style : Style) (chars : List Char) :
    (styled style chars).styleAfter style? = none := rfl

theorem closes_raw (chars : List Char) : (raw chars).Closes := rfl

/-- Texts that leave no style on can be written one after the other. -/
theorem Closes.append (h : text.Closes) (hrest : rest.Closes) : (text ++ rest).Closes := by
  rw [Closes, styleAfter_append, h, hrest]

theorem closes_flatMap {α : Type} {items : List α} {item : α → Styled}
    (h : ∀ x ∈ items, (item x).Closes) : Closes (items.flatMap item) := by
  induction items with
  | nil => rfl
  | cons x items ih =>
      obtain ⟨hx, hitems⟩ := List.forall_mem_cons.1 h
      rw [List.flatMap_cons]
      exact hx.append (ih hitems)

theorem cells_flatMap {α : Type} {items : List α} {item : α → Styled}
    (h : ∀ x ∈ items, (item x).Closes) :
    Styled.cells none (items.flatMap item) = items.flatMap fun x => (item x).cells none := by
  induction items with
  | nil => rfl
  | cons x items ih =>
      obtain ⟨hx, hitems⟩ := List.forall_mem_cons.1 h
      rw [List.flatMap_cons, cells_append, hx, ih hitems, List.flatMap_cons]

@[simp] theorem isClear_nil : IsClear [] := List.not_mem_nil

@[simp] theorem isClear_raw : (raw chars).IsClear ↔ '\x1b' ∉ chars := by
  simp [IsClear, raw, renderMark]

@[simp] theorem isClear_styled {style : Style} :
    (styled style chars).IsClear ↔ '\x1b' ∉ chars := by
  simp [IsClear, styled, renderMark]

@[simp] theorem isClear_append : IsClear (text ++ rest) ↔ text.IsClear ∧ rest.IsClear := by
  simp [IsClear, not_or]

theorem isClear_flatMap {α : Type} {items : List α} {item : α → Styled}
    (h : ∀ x ∈ items, (item x).IsClear) : IsClear (items.flatMap item) := by
  induction items with
  | nil => exact isClear_nil
  | cons x items ih =>
      obtain ⟨hx, hitems⟩ := List.forall_mem_cons.1 h
      rw [List.flatMap_cons, isClear_append]
      exact ⟨hx, ih hitems⟩

end Styled

/-! ### Writing in colour -/

namespace Terminal

open Styled (render renderMark sequence IsClear Closes)

variable {t : Terminal} {text : Styled} {chars : List Char} {style? : Option Style}

/-- The numbers that are on for a style. -/
def numbers (style? : Option Style) : List (List Char) := (style?.map Style.number).toList

/-- How a character is shown in a style. -/
def cell (entry : Char × Option Style) : Cell := (entry.1, numbers entry.2)

/-- Characters are shown in the styles that are on. -/
theorem feedAll_chars (ready : t.progress = .shown) (clear : '\x1b' ∉ chars) :
    t.feedAll chars =
      { t with cells := (chars.map fun c => (c, t.active)).reverse ++ t.cells } := by
  induction chars generalizing t with
  | nil => rfl
  | cons c chars ih =>
      obtain ⟨hc, hchars⟩ := not_or.1 (List.mem_cons.not.1 clear)
      have first : t.feed c = { t with cells := (c, t.active) :: t.cells } := by
        rw [feed, ready]
        exact if_neg (Ne.symm hc)
      rw [feedAll_cons, first, ih (by exact ready) hchars]
      simp

/-- The sequence for the plain style switches all styles off. -/
theorem feedAll_plain (ready : t.progress = .shown) :
    t.feedAll (sequence ['0']) = { t with active := [] } := by
  obtain ⟨progress, active, cells⟩ := t
  obtain rfl : progress = .shown := ready
  rfl

/-- The sequence for a style switches it on. -/
theorem feedAll_style (ready : t.progress = .shown) (style : Style) :
    t.feedAll (sequence style.number) = { t with active := style.number :: t.active } := by
  obtain ⟨progress, active, cells⟩ := t
  obtain rfl : progress = .shown := ready
  cases style <;> rfl

/-- **A terminal does what a text with styles says:** it shows the characters in their styles, and
leaves the style on that is on behind the text. -/
theorem feedAll_render (ready : t.progress = .shown) (active : t.active = numbers style?)
    (clear : text.IsClear) : t.feedAll (text.render true) = { t with
      active := numbers (text.styleAfter style?)
      cells := ((text.cells style?).map cell).reverse ++ t.cells } := by
  induction text generalizing t style? with
  | nil =>
      obtain ⟨progress, active', cells⟩ := t
      obtain rfl : active' = numbers style? := active
      rfl
  | cons mark rest ih =>
      rw [Styled.render_cons, feedAll_append]
      have clear' : ¬('\x1b' ∈ renderMark false mark ∨ '\x1b' ∈ render false rest) := by
        rwa [IsClear, Styled.render_cons, List.mem_append] at clear
      obtain ⟨hmark, hrest⟩ := not_or.1 clear'
      cases mark with
      | chars chars =>
          have first : t.feedAll (renderMark true (.chars chars)) =
              { t with cells := (chars.map fun c => (c, t.active)).reverse ++ t.cells } :=
            feedAll_chars ready hmark
          rw [first, ih (by exact ready) (by exact active) hrest, Styled.cells, Styled.styleAfter,
            active]
          simp [cell, Function.comp_def]
      | style style =>
          -- The style that was on is switched off before the new one is switched on.
          have first : t.feedAll (renderMark true (.style style)) =
              { t with active := numbers (some style) } := by
            rw [renderMark, if_pos rfl, feedAll_append, feedAll_plain ready,
              feedAll_style (by exact ready)]
            rfl
          rw [first, ih (by exact ready) (show _ = numbers (some style) from rfl) hrest]
          rfl
      | plain =>
          have first : t.feedAll (renderMark true .plain) = { t with active := numbers none } := by
            rw [renderMark, if_pos rfl, feedAll_plain ready]
            rfl
          rw [first, ih (by exact ready) (show _ = numbers none from rfl) hrest]
          rfl

section Closed

variable (clear : text.IsClear) (closed : text.Closes)

include clear closed

/-- A text that leaves no style on is written to a terminal where none is on. -/
theorem feedAll_of_isReset (reset : t.IsReset) : t.feedAll (text.render true) =
    { t with cells := ((text.cells none).map cell).reverse ++ t.cells } := by
  obtain ⟨progress, active, cells⟩ := t
  obtain rfl : active = numbers none := reset.2
  rw [feedAll_render reset.1 (show _ = numbers none from rfl) clear, closed]

/-- **What is shown of such a text** is what it says. -/
theorem display_render : display (text.render true) = (text.cells none).map cell := by
  rw [display, feedAll_of_isReset clear closed ⟨rfl, rfl⟩]
  simp

/-- **Without the escape sequences** it is what is written without colour. -/
theorem visible_render : visible (text.render true) = text.render false := by
  have same : Prod.fst ∘ cell = (Prod.fst : Char × Option Style → Char) := rfl
  rw [visible, display_render clear closed, List.map_map, same, Styled.map_fst_cells]

/-- **No style is left on.** -/
theorem isReset_feedAll (reset : t.IsReset) : (t.feedAll (text.render true)).IsReset := by
  rw [feedAll_of_isReset clear closed reset]
  exact reset

end Closed

/-- **Closed texts are shown one after the other,** each as it is shown by itself. -/
theorem display_flatMap {α : Type} {items : List α} {item : α → Styled}
    (clear : ∀ x ∈ items, (item x).IsClear) (closed : ∀ x ∈ items, (item x).Closes) :
    display (items.flatMap fun x => (item x).render true) =
      items.flatMap fun x => display ((item x).render true) := by
  have whole : (items.flatMap fun x => (item x).render true) = render true (items.flatMap item) :=
    List.flatMap_assoc.symm
  rw [whole, display_render (Styled.isClear_flatMap clear) (Styled.closes_flatMap closed),
    Styled.cells_flatMap closed, List.map_flatMap]
  exact List.flatMap_congr fun x hx => (display_render (clear x hx) (closed x hx)).symm

/-- A style stays on until it is switched off. -/
example : display "\x1b[1;31mab\x1b[0mc".toList =
    [('a', [['3', '1'], ['1']]), ('b', [['3', '1'], ['1']]), ('c', [])] := by decide

end Terminal

end ParamTemplate.Text
