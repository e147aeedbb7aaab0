/-
**Records are read back.**

A record is read character by character.  Objects that have begun but not ended are kept with the
fields they have so far, the innermost first; a text is kept with the characters it has so far.  No
text may hold a raw control character, and a character beyond U+FFFF may be escaped in two halves.
Numbers and lists are refused, as records hold none.

The written form of each value is read back as this value, and holds no control character, so that
a record stays on its line.

Main definitions:

* `Text.Json.Quotation.feed` — read a character inside a text;
* `Text.Json.Reading.feed`, `Text.Json.Reading.feedAll` — read a character, and several;
* `Text.Json.parse` — the value that a text is the written form of.

Main results:

* `Text.Json.not_control_of_mem_render` — **no control character is written**;
* `Text.Json.parse_render` — **what is written is read back.**
-/

import ParamTemplate.Text.CharSet
import ParamTemplate.Text.Json

set_option autoImplicit false

namespace ParamTemplate.Text.Json

/-! ### Reading texts -/

/-- How far a character is escaped. -/
inductive Escape where
  | none
  /-- The mark has been read. -/
  | mark
  /-- So many digits are left behind the next one; the value is that of the digits before it. -/
  | digits (left value : Nat)
deriving DecidableEq, Repr

/-- A text that is being read. -/
structure Quotation where
  /-- The characters before, the last one first. -/
  chars : List Char := []
  /-- The first half of a character that is escaped in two halves. -/
  half? : Option Nat := none
  escape : Escape := .none
deriving DecidableEq, Repr

/-- The value of a hexadecimal digit. -/
def digit? (c : Char) : Option Nat :=
  if '0' ≤ c && c ≤ '9' then some (c.toNat - '0'.toNat)
  else if 'a' ≤ c && c ≤ 'f' then some (c.toNat - 'a'.toNat + 10)
  else if 'A' ≤ c && c ≤ 'F' then some (c.toNat - 'A'.toNat + 10)
  else none

/-- The character that a letter behind the mark stands for. -/
def unescape? (c : Char) : Option Char :=
  if c = '"' || c = '\\' || c = '/' then some c
  else if c = 'b' then some '\x08'
  else if c = 't' then some '\t'
  else if c = 'n' then some '\n'
  else if c = 'f' then some '\x0c'
  else if c = 'r' then some '\r'
  else none

namespace Quotation

/-- A character has been read. -/
def push (text : Quotation) (c : Char) : Quotation := { chars := c :: text.chars }

/-- A code has been read: that of a character, or of half of one. -/
def pushCode (text : Quotation) (code : Nat) : Option Quotation :=
  let isFirst := 0xD800 ≤ code && code < 0xDC00
  let isSecond := 0xDC00 ≤ code && code < 0xE000
  match text.half? with
  | none =>
      if isFirst then some { text with half? := some code, escape := .none }
      else if isSecond then none
      else some (text.push (Char.ofNat code))
  | some half =>
      if isSecond then
        some (text.push (Char.ofNat (0x10000 + (half - 0xD800) * 0x400 + (code - 0xDC00))))
      else none

/-- Whether the text can end here. -/
def isWhole (text : Quotation) : Bool := text.escape = .none && text.half?.isNone

/-- **Read a character inside a text.** -/
def feed (text : Quotation) (c : Char) : Option Quotation :=
  match text.escape with
  | .none =>
      if c = '\\' then some { text with escape := .mark }
      else if c.toNat < 0x20 || text.half?.isSome then none
      else some (text.push c)
  | .mark =>
      if c = 'u' then some { text with escape := .digits 3 0 }
      else if text.half?.isSome then none
      else (unescape? c).map text.push
  | .digits left value =>
      match digit? c, left with
      | none, _ => none
      | some digit, 0 => text.pushCode (value * 16 + digit)
      | some digit, left + 1 => some { text with escape := .digits left (value * 16 + digit) }

end Quotation

/-! ### Reading values -/

/-- An object that has begun. -/
structure Opening where
  /-- The fields before, the last one first. -/
  fields : List (List Char × Json) := []
  /-- The key of the field at hand. -/
  key : List Char := []

/-- What can come next. -/
inductive Phase where
  | value
  /-- The first key of an object, or the end of an empty one. -/
  | first
  | key
  | colon
  /-- A comma or the end of an object. -/
  | comma
  /-- What is left of the word for a value. -/
  | word (letter : Char) (rest : List Char) (value : Json)
  /-- What is left of a text, which may be a key. -/
  | text (isKey : Bool) (read : Quotation)
  /-- Nothing: a value has been read. -/
  | done (value : Json)

/-- What is known after some characters. -/
structure Reading where
  phase : Phase := .value
  /-- The objects that have begun, the innermost first. -/
  outer : List Opening := []

/-- Whether a character may stand around values, keys and marks. -/
def isBlank (c : Char) : Bool := c = ' ' || c = '\t' || c = '\n' || c = '\r'

namespace Reading

/-- A value has been read: all that there is, or that of the field at hand. -/
def deliver (value : Json) : List Opening → Reading
  | [] => { phase := .done value }
  | inner :: outer =>
      { phase := .comma
        outer := { inner with fields := (inner.key, value) :: inner.fields } :: outer }

/-- The key of the field at hand has been read. -/
def setKey (key : List Char) : List Opening → Option Reading
  | [] => none
  | inner :: outer => some { phase := .colon, outer := { inner with key } :: outer }

/-- The innermost object ends. -/
def close : List Opening → Option Reading
  | [] => none
  | inner :: outer => some (deliver (.object inner.fields.reverse) outer)

/-- A value begins. -/
def start (outer : List Opening) (c : Char) : Option Reading :=
  if c = '"' then some { phase := .text false {}, outer }
  else if c = '\x7b' then some { phase := .first, outer := {} :: outer }
  else if c = 'n' then some { phase := .word 'u' ['l', 'l'] .null, outer }
  else if c = 't' then some { phase := .word 'r' ['u', 'e'] (.bool true), outer }
  else if c = 'f' then some { phase := .word 'a' ['l', 's', 'e'] (.bool false), outer }
  else none

/-- Read a character that is no blank, outside of texts and words. -/
def feedMark (s : Reading) (c : Char) : Option Reading :=
  match s.phase with
  | .value => start s.outer c
  | .first =>
      if c = '"' then some { s with phase := .text true {} }
      else if c = '\x7d' then close s.outer
      else none
  | .key => if c = '"' then some { s with phase := .text true {} } else none
  | .colon => if c = ':' then some { s with phase := .value } else none
  | .comma =>
      if c = ',' then some { s with phase := .key }
      else if c = '\x7d' then close s.outer
      else none
  | _ => none

/-- **Read a character.** -/
def feed (s : Reading) (c : Char) : Option Reading :=
  match s.phase with
  | .word letter rest value =>
      if c = letter then
        match rest with
        | [] => some (deliver value s.outer)
        | letter :: rest => some { s with phase := .word letter rest value }
      else none
  | .text isKey read =>
      if c = '"' && read.isWhole then
        if isKey then setKey read.chars.reverse s.outer
        else some (deliver (.text read.chars.reverse) s.outer)
      else (read.feed c).map fun read => { s with phase := .text isKey read }
  | _ => if isBlank c then some s else s.feedMark c

/-- Read several characters. -/
def feedAll (s : Reading) : List Char → Option Reading
  | [] => some s
  | c :: rest => (s.feed c).bind (·.feedAll rest)

/-- The value that has been read, if it is all that there is. -/
def value? (s : Reading) : Option Json :=
  match s.phase with
  | .done value => some value
  | _ => none

end Reading

/-- **The value that a text is the written form of.** -/
def parse (text : List Char) : Option Json := (({} : Reading).feedAll text).bind Reading.value?

/-! ### Characters -/

theorem digit?_hexDigit {n : Nat} (h : n < 16) : digit? (hexDigit n) = some n := by
  have all : ∀ n < 16, digit? (hexDigit n) = some n := by decide
  exact all n h

/-- **How a character is written inside a text:** with a mark and a letter, with a mark and its code,
or as it is. -/
theorem escape_cases (c : Char) :
    (∃ letter, escape c = ['\\', letter] ∧ unescape? letter = some c ∧ letter ≠ 'u' ∧
      ¬letter.toNat < 0x20) ∨
    (c.toNat < 0x20 ∧
      escape c = ['\\', 'u', '0', '0', hexDigit (c.toNat / 16), hexDigit (c.toNat % 16)]) ∨
    (escape c = [c] ∧ c ≠ '"' ∧ c ≠ '\\' ∧ ¬c.toNat < 0x20) := by
  by_cases named : c ∈ ['"', '\\', '\x08', '\t', '\n', '\x0c', '\r']
  · simp only [List.mem_cons, List.not_mem_nil, or_false] at named
    rcases named with rfl | rfl | rfl | rfl | rfl | rfl | rfl
    all_goals exact .inl ⟨_, rfl, by decide⟩
  · simp only [List.mem_cons, List.not_mem_nil, or_false, not_or] at named
    obtain ⟨hquote, hmark, h1, h2, h3, h4, h5⟩ := named
    rw [escape, if_neg hquote, if_neg hmark, if_neg h1, if_neg h2, if_neg h3, if_neg h4, if_neg h5]
    by_cases control : c.toNat < 0x20
    · exact .inr (.inl ⟨control, if_pos control⟩)
    · exact .inr (.inr ⟨if_neg control, hquote, hmark, control⟩)

/-! ### No control characters -/

theorem not_control_hexDigit {n : Nat} (h : n < 16) : ¬(hexDigit n).toNat < 0x20 := by
  have all : ∀ n < 16, ¬(hexDigit n).toNat < 0x20 := by decide
  exact all n h

theorem not_control_of_mem_escape {c d : Char} (h : d ∈ escape c) : ¬d.toNat < 0x20 := by
  obtain ⟨letter, hescape, -, -, hletter⟩ | ⟨control, hescape⟩ | ⟨hescape, -, -, hc⟩ :=
    escape_cases c <;> rw [hescape] at h
  · simp only [List.mem_cons, List.not_mem_nil, or_false] at h
    rcases h with rfl | rfl
    · decide
    · exact hletter
  · simp only [List.mem_cons, List.not_mem_nil, or_false] at h
    rcases h with rfl | rfl | rfl | rfl | rfl | rfl
    iterate 4 decide
    · exact not_control_hexDigit (by omega)
    · exact not_control_hexDigit (by omega)
  · obtain rfl := List.mem_singleton.1 h
    exact hc

theorem not_control_of_mem_quote {chars : List Char} {d : Char} (h : d ∈ quote chars) :
    ¬d.toNat < 0x20 := by
  simp only [quote, List.cons_append, List.mem_cons, List.mem_append, List.mem_flatMap,
    List.not_mem_nil, or_false] at h
  rcases h with rfl | ⟨c, -, hd⟩ | rfl
  · decide
  · exact not_control_of_mem_escape hd
  · decide

theorem not_control_of_all {chars : List Char} {d : Char}
    (hall : (chars.all fun c => !decide (c.toNat < 0x20)) = true) (h : d ∈ chars) :
    ¬d.toNat < 0x20 := by
  simpa using List.all_eq_true.1 hall d h

mutual

/-- **No control character is written.** -/
theorem not_control_of_mem_render {d : Char} (value : Json) (h : d ∈ value.render) :
    ¬d.toNat < 0x20 := by
  match value with
  | .null => exact not_control_of_all (by decide) h
  | .bool true => exact not_control_of_all (by decide) h
  | .bool false => exact not_control_of_all (by decide) h
  | .text chars => exact not_control_of_mem_quote h
  | .object fields =>
      simp only [render, List.cons_append, List.mem_cons, List.mem_append, List.not_mem_nil,
        or_false] at h
      rcases h with rfl | h | rfl
      · decide
      · exact not_control_of_mem_renderFields fields h
      · decide

theorem not_control_of_mem_renderFields {d : Char} (fields : List (List Char × Json))
    (h : d ∈ renderFields fields) : ¬d.toNat < 0x20 := by
  match fields with
  | [] => cases h
  | [(key, value)] =>
      simp only [renderFields, List.mem_append, List.mem_cons] at h
      rcases h with h | rfl | h
      · exact not_control_of_mem_quote h
      · decide
      · exact not_control_of_mem_render value h
  | (key, value) :: next :: rest =>
      simp only [renderFields, List.cons_append, List.append_assoc, List.mem_append,
        List.mem_cons] at h
      rcases h with h | rfl | h | rfl | h
      · exact not_control_of_mem_quote h
      · decide
      · exact not_control_of_mem_render value h
      · decide
      · exact not_control_of_mem_renderFields (next :: rest) h

end

/-! ### Reading back -/

namespace Reading

variable {s s' : Reading} {isKey : Bool} {chars : List Char} {outer : List Opening}

@[simp] theorem feedAll_nil (s : Reading) : s.feedAll [] = some s := rfl

@[simp] theorem feedAll_cons (s : Reading) (c : Char) (rest : List Char) :
    s.feedAll (c :: rest) = (s.feed c).bind (·.feedAll rest) := rfl

/-- What is read in two parts. -/
theorem feedAll_append (s : Reading) (text rest : List Char) :
    s.feedAll (text ++ rest) = (s.feedAll text).bind (·.feedAll rest) := by
  induction text generalizing s with
  | nil => rfl
  | cons c text ih =>
      rw [List.cons_append, feedAll_cons, feedAll_cons, Option.bind_assoc]
      exact congrArg _ (funext fun s => ih s)

theorem feedAll_of_append {text rest : List Char} (h : s.feedAll text = some s') :
    s.feedAll (text ++ rest) = s'.feedAll rest := by
  rw [feedAll_append, h, Option.bind_some]

/-- **A character inside a text is read back.** -/
theorem feedAll_escape (c : Char) :
    feedAll { phase := .text isKey { chars }, outer } (escape c) =
      some { phase := .text isKey { chars := c :: chars }, outer } := by
  obtain ⟨letter, hescape, hletter, hne, -⟩ | ⟨control, hescape⟩ | ⟨hescape, hquote, hmark, hc⟩ :=
    escape_cases c <;> rw [hescape]
  · simp [feed, Quotation.feed, Quotation.isWhole, Quotation.push, hne, hletter]
  · have code : c.toNat / 16 * 16 + c.toNat % 16 = c.toNat := Nat.div_add_mod' ..
    have first : ¬0xD800 ≤ c.toNat := by omega
    have second : ¬0xDC00 ≤ c.toNat := by omega
    -- The two zeros in front are the same for all control characters.
    change feedAll { phase := .text isKey { chars, escape := .digits 1 0 }, outer }
      [hexDigit (c.toNat / 16), hexDigit (c.toNat % 16)] = _
    simp [feed, Quotation.feed, Quotation.isWhole, Quotation.pushCode, Quotation.push,
      digit?_hexDigit (n := c.toNat / 16) (by omega), digit?_hexDigit (n := c.toNat % 16) (by omega),
      code, first, second]
  · simp [feed, Quotation.feed, Quotation.isWhole, Quotation.push, hquote, hmark, hc]

/-- The characters of a text are read back. -/
theorem feedAll_escapes (text : List Char) :
    feedAll { phase := .text isKey { chars }, outer } (text.flatMap escape) =
      some { phase := .text isKey { chars := text.reverse ++ chars }, outer } := by
  induction text generalizing chars with
  | nil => rfl
  | cons c text ih =>
      rw [List.flatMap_cons, feedAll_of_append (feedAll_escape c), ih]
      simp

/-- A text is read back up to its end. -/
theorem feedAll_quote_tail (text : List Char) :
    feedAll { phase := .text isKey {}, outer } (text.flatMap escape ++ ['"']) =
      if isKey then setKey text outer else some (deliver (.text text) outer) := by
  rw [feedAll_of_append (feedAll_escapes text)]
  cases isKey <;> simp [feed, Quotation.isWhole]

/-- A key is read back, as the first one or as a later one. -/
theorem feedAll_key (inner : Opening) (isFirst : Bool) (key : List Char) :
    feedAll { phase := if isFirst then .first else .key, outer := inner :: outer } (quote key) =
      some { phase := .colon, outer := { inner with key } :: outer } := by
  cases isFirst <;> exact @feedAll_quote_tail true _ key

/-- A field is read back if its value is, up to what is behind the value. -/
theorem feedAll_field (inner : Opening) (isFirst : Bool) (key : List Char) {value : Json}
    (hvalue : ∀ outer, feedAll { phase := .value, outer } value.render = some (deliver value outer))
    (behind : List Char) :
    feedAll { phase := if isFirst then .first else .key, outer := inner :: outer }
        (quote key ++ ':' :: (value.render ++ behind)) =
      feedAll (deliver value ({ inner with key } :: outer)) behind := by
  rw [feedAll_of_append (feedAll_key inner isFirst key)]
  exact feedAll_of_append (hvalue _)

mutual

/-- **A value is read back.** -/
theorem feedAll_render (outer : List Opening) (value : Json) :
    feedAll { phase := .value, outer } value.render = some (deliver value outer) := by
  match value with
  | .null => rfl
  | .bool true => rfl
  | .bool false => rfl
  | .text chars => exact @feedAll_quote_tail false _ chars
  | .object [] => rfl
  | .object (field :: rest) => exact feedAll_renderFields {} outer true (field :: rest) nofun

/-- The fields of an object are read back, behind those that it has so far. -/
theorem feedAll_renderFields (inner : Opening) (outer : List Opening) (isFirst : Bool)
    (fields : List (List Char × Json)) (hne : fields ≠ []) :
    feedAll { phase := if isFirst then .first else .key, outer := inner :: outer }
        (renderFields fields ++ ['\x7d']) =
      some (deliver (.object (inner.fields.reverse ++ fields)) outer) := by
  match fields with
  | [] => exact absurd rfl hne
  | [(key, value)] =>
      rw [renderFields, List.append_assoc, List.cons_append,
        feedAll_field inner isFirst key (fun outer => feedAll_render outer value)]
      simp [deliver, feed, isBlank, feedMark, close]
  | (key, value) :: next :: rest =>
      rw [renderFields, List.append_assoc, List.append_assoc, List.cons_append,
        feedAll_field inner isFirst key (fun outer => feedAll_render outer value)]
      refine (feedAll_renderFields { fields := (key, value) :: inner.fields, key } outer false
        (next :: rest) nofun).trans ?_
      simp

end

end Reading

/-- **What is written is read back.** -/
theorem parse_render (value : Json) : parse value.render = some value := by
  rw [parse, Reading.feedAll_render]
  rfl

/-- A character that is escaped in two halves is read as one. -/
example : parse "\"\\ud83d\\ude00\"".toList = some (.text ['😀']) := rfl

/-- A raw control character is refused. -/
example : parse "\"a\nb\"".toList = none := rfl

end ParamTemplate.Text.Json
