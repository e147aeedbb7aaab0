/-
**Lines, however they are ended.**

Texts without line feeds can be written as lines in many ways: each line is ended by a line feed or
by a carriage return and a line feed, and the last line may do without.  Whichever way is taken, the
same texts are read back.

A line feed and a carriage return are each written as one byte, which is no part of another
character.  So bytes can be cut into lines before or after they are read as characters.

Main definitions:

* `Text.LineEnd` — how a line is ended;
* `Text.WrittenAs` — texts are written as lines.

Main results:

* `Text.length_linesBy` — **there is a line for each line feed,** and one for what is left behind;
* `Text.lines_of_writtenAs` — **texts that are written as lines are read back**;
* `Text.linesBy_encode` — the lines of the bytes of a text;
* `Text.exists_encode_eq` — if all lines of some bytes are texts, so are the bytes.
-/

import Mathlib.Data.List.Basic
import ParamTemplate.Proofs.Text.Decoding
import ParamTemplate.Text.Lines

set_option autoImplicit false

namespace ParamTemplate.Text

open Utf8 (encode)

section

variable {α : Type} [DecidableEq α] {feed ret : α}

/-! ### The number of lines -/

theorem linesFrom_append_of_not_mem {chars line rest : List α} (h : feed ∉ line) :
    linesFrom feed ret chars (line ++ rest) = linesFrom feed ret (line.reverse ++ chars) rest := by
  induction line generalizing chars with
  | nil => rfl
  | cons c line ih =>
      have hc : c ≠ feed := fun hc => h (hc ▸ List.mem_cons_self ..)
      rw [List.cons_append, linesFrom, if_neg hc, ih fun hm => h (List.mem_cons_of_mem _ hm)]
      simp

/-- What is left behind the last line feed is one more line, unless nothing is left. -/
theorem length_linesFrom {chars data : List α} (h : feed ∉ chars) :
    (linesFrom feed ret chars data).length =
      data.count feed + if (chars.reverse ++ data).getLast?.all (· = feed) then 0 else 1 := by
  induction data generalizing chars with
  | nil =>
      cases chars with
      | nil => rfl
      | cons c chars =>
          have hc : c ≠ feed := fun hc => h (hc ▸ List.mem_cons_self ..)
          simp [linesFrom, hc]
  | cons c data ih =>
      by_cases hc : c = feed
      · subst hc
        rw [linesFrom, if_pos rfl, List.length_cons, ih List.not_mem_nil, List.count_cons_self,
          Nat.add_right_comm]
        cases data with
        | nil => simp
        | cons d data => simp [List.getLast?_cons]
      · rw [linesFrom, if_neg hc, ih (by simp [h, Ne.symm hc]), List.count_cons_of_ne hc]
        simp

/-- **There is a line for each line feed,** and one for what is left behind the last one. -/
theorem length_linesBy (ret : α) (data : List α) : (linesBy feed ret data).length =
    data.count feed + if data = [] ∨ data.getLast? = some feed then 0 else 1 := by
  rw [linesBy, length_linesFrom List.not_mem_nil, List.reverse_nil, List.nil_append]
  cases hlast : data.getLast? with
  | none => simp [List.getLast?_eq_none_iff.1 hlast]
  | some c =>
      have hne : data ≠ [] := by
        rintro rfl
        cases hlast
      simp [hne]

end

/-! ### Lines that are read back -/

/-- How a line is ended. -/
inductive LineEnd where
  | feed
  | returnFeed
deriving DecidableEq, Repr

/-- The characters at the end of a line. -/
def LineEnd.chars : LineEnd → List Char
  | feed => ['\n']
  | returnFeed => ['\r', '\n']

/-- **Texts are written as lines,** each ended in one way or the other.  The last one may do without
an end unless it is empty. -/
inductive WrittenAs : List (List Char) → List Char → Prop where
  | nil : WrittenAs [] []
  | last {line : List Char} : line ≠ [] → WrittenAs [line] line
  | cons {texts : List (List Char)} {data : List Char} (line : List Char) (stop : LineEnd) :
      WrittenAs texts data → WrittenAs (line :: texts) (line ++ (stop.chars ++ data))

/-- A line is read back up to its end. -/
theorem lines_append {line : List Char} (h : '\n' ∉ line) (hr : line.getLast? ≠ some '\r')
    (stop : LineEnd) (data : List Char) :
    lines (line ++ (stop.chars ++ data)) = line :: lines data := by
  cases stop with
  | feed => exact linesBy_append h hr
  | returnFeed =>
      have whole : '\n' ∉ line ++ ['\r'] := by simp [h]
      have cut : line ++ (LineEnd.returnFeed.chars ++ data) = (line ++ ['\r']) ++ '\n' :: data := by
        simp [LineEnd.chars]
      rw [cut, lines, linesBy, linesFrom_append whole]
      simp [endLine, lines]

/-- A line without an end is read back. -/
theorem lines_of_last {line : List Char} (h : '\n' ∉ line) (hne : line ≠ []) :
    lines line = [line] := by
  have read : linesFrom '\n' '\r' [] (line ++ []) = _ := linesFrom_append_of_not_mem h
  rw [List.append_nil, List.append_nil] at read
  rw [lines, linesBy, read, linesFrom, if_neg (by simpa using hne), List.reverse_reverse]

/-- **Texts that are written as lines are read back,** if they hold no line feed and do not end in a
carriage return. -/
theorem lines_of_writtenAs {texts : List (List Char)} {data : List Char}
    (h : ∀ line ∈ texts, '\n' ∉ line ∧ line.getLast? ≠ some '\r') (hdata : WrittenAs texts data) :
    lines data = texts := by
  induction hdata with
  | nil => rfl
  | last hne => exact lines_of_last (h _ (List.mem_singleton_self _)).1 hne
  | cons line stop _ ih =>
      obtain ⟨⟨hfeed, hreturn⟩, hrest⟩ := List.forall_mem_cons.1 h
      rw [lines_append hfeed hreturn, ih hrest]

/-! ### Lines of bytes -/

/-- Only a line feed is written with the byte of one, and so it is for all small characters. -/
theorem eq_of_toNat_mem_bytes {c d : Char} (hd : d.toNat < 0x80)
    (h : d.toNat ∈ Utf8.bytes c.toNat) : c = d :=
  Char.toNat_inj.1 (Utf8.eq_of_mem_bytes h hd).symm

theorem encode_append (text more : List Char) :
    encode (text ++ more) = encode text ++ encode more := List.flatMap_append

theorem encode_singleton (c : Char) : encode [c] = Utf8.bytes c.toNat := List.flatMap_singleton ..

theorem encode_reverse_cons (c : Char) (chars : List Char) :
    encode (c :: chars).reverse = encode chars.reverse ++ Utf8.bytes c.toNat := by
  rw [List.reverse_cons, encode_append, encode_singleton]

theorem endLine_cons {α : Type} [DecidableEq α] (ret c : α) (chars : List α) :
    endLine ret (c :: chars) = if c = ret then chars.reverse else (c :: chars).reverse := by
  simp [endLine]

/-- A carriage return at the end of a line is seen in its bytes. -/
theorem endLine_encode (chars : List Char) :
    endLine 0x0D (encode chars.reverse).reverse = encode (endLine '\r' chars) := by
  cases chars with
  | nil => rfl
  | cons c chars =>
      rw [endLine_cons '\r', encode_reverse_cons]
      by_cases hc : c = '\r'
      · subst hc
        have ret : Utf8.bytes '\r'.toNat = [0x0D] := rfl
        rw [ret, if_pos rfl, List.reverse_append, List.reverse_singleton, List.singleton_append,
          endLine_cons, if_pos rfl, List.reverse_reverse]
      · rw [if_neg hc, encode_reverse_cons]
        refine endLine_reverse fun hlast => ?_
        rw [List.getLast?_append_of_ne_nil _ (Utf8.bytes_ne_nil _)] at hlast
        exact hc (eq_of_toNat_mem_bytes (by decide) (List.mem_of_getLast? hlast))

/-- What is left of the bytes of a text has the lines of what is left of the text. -/
theorem linesFrom_encode (chars text : List Char) :
    linesFrom 0x0A 0x0D (encode chars.reverse).reverse (encode text) =
      (linesFrom '\n' '\r' chars text).map encode := by
  induction text generalizing chars with
  | nil =>
      cases chars with
      | nil => rfl
      | cons c chars =>
          have hne : encode (c :: chars).reverse ≠ [] := by
            rw [encode_reverse_cons]
            exact List.append_ne_nil_of_right_ne_nil _ (Utf8.bytes_ne_nil _)
          rw [Utf8.encode_nil, linesFrom, if_neg (by simpa using hne), List.reverse_reverse]
          rfl
  | cons c text ih =>
      rw [Utf8.encode_cons]
      by_cases hc : c = '\n'
      · subst hc
        have feed : Utf8.bytes '\n'.toNat = [0x0A] := rfl
        rw [feed, List.singleton_append, linesFrom, if_pos rfl, linesFrom, if_pos rfl,
          List.map_cons, endLine_encode]
        exact congrArg _ (ih [])
      · have other : 0x0A ∉ Utf8.bytes c.toNat :=
          fun h => hc (eq_of_toNat_mem_bytes (by decide) h)
        rw [linesFrom_append_of_not_mem other, linesFrom, if_neg hc, ← ih, encode_reverse_cons,
          List.reverse_append]

/-- **The lines of the bytes of a text** are the bytes of its lines. -/
theorem linesBy_encode (text : List Char) :
    linesBy 0x0A 0x0D (encode text) = (lines text).map encode := linesFrom_encode [] text

/-- The lines of some bytes are read one by one: as the texts that they are the bytes of. -/
theorem mapM_decode?_eq_some_iff {lines : List (List Nat)} {texts : List (List Char)} :
    lines.mapM Utf8.decode? = some texts ↔ texts.map encode = lines := by
  induction lines generalizing texts with
  | nil => simp [eq_comm]
  | cons line lines ih =>
      simp only [List.mapM_cons, Option.bind_eq_bind, Option.bind_eq_some_iff, Option.pure_def,
        Option.some.injEq, Utf8.decode?_eq_some_iff, ih, List.map_eq_cons_iff]
      constructor
      · rintro ⟨text, htext, texts, htexts, rfl⟩
        exact ⟨text, texts, rfl, htext, htexts⟩
      · rintro ⟨text, texts, rfl, htext, htexts⟩
        exact ⟨text, htext, texts, htexts, rfl⟩

/-- A line that is a text is still one with its end. -/
theorem exists_encode_of_endLine {line : List Char} {chars : List Nat}
    (h : encode line = endLine 0x0D chars) : ∃ text, encode text = chars.reverse := by
  cases chars with
  | nil => exact ⟨[], rfl⟩
  | cons byte chars =>
      rw [endLine_cons] at h
      split at h
      next hreturn =>
        refine ⟨line ++ ['\r'], ?_⟩
        rw [encode_append, h, hreturn, List.reverse_cons]
        rfl
      · exact ⟨line, h⟩

/-- Bytes are a text if the line at hand and all lines behind it are. -/
theorem exists_encode_eq_append {chars data : List Nat}
    (h : ∀ line ∈ linesFrom 0x0A 0x0D chars data, ∃ text, encode text = line) :
    ∃ text, encode text = chars.reverse ++ data := by
  induction data generalizing chars with
  | nil =>
      rw [linesFrom] at h
      split at h
      next hempty =>
        obtain rfl := List.isEmpty_iff.1 hempty
        exact ⟨[], rfl⟩
      · simpa using h
  | cons byte data ih =>
      rw [linesFrom] at h
      split at h
      next hfeed =>
        obtain ⟨⟨line, hline⟩, hlines⟩ := List.forall_mem_cons.1 h
        obtain ⟨text, htext⟩ := exists_encode_of_endLine hline
        obtain ⟨rest, hrest⟩ := ih hlines
        refine ⟨text ++ '\n' :: rest, ?_⟩
        rw [encode_append, Utf8.encode_cons, htext, hrest, hfeed]
        rfl
      · obtain ⟨text, htext⟩ := ih h
        exact ⟨text, by simpa using htext⟩

/-- **If all lines of some bytes are texts, so are the bytes.** -/
theorem exists_encode_eq {data : List Nat}
    (h : ∀ line ∈ linesBy 0x0A 0x0D data, ∃ text, encode text = line) :
    ∃ text, encode text = data := exists_encode_eq_append h

end ParamTemplate.Text
