/-
**The UTF-8 form of characters.**

A character is written as one to four bytes.  A text can be read back from bytes only if they are
the form of some text; which bytes are is decided byte by byte.

Main definitions:

* `Utf8.width`, `Utf8.bytes` — the number of bytes of a character, and the bytes;
* `Utf8.encode` — the bytes of a text;
* `Utf8.decode?` — the text of bytes, if they are the form of one.
-/

set_option autoImplicit false

namespace ParamTemplate.Utf8

/-! ### Writing -/

/-- The number of bytes of the character with a code. -/
def width (code : Nat) : Nat :=
  if code < 0x80 then 1 else if code < 0x800 then 2 else if code < 0x10000 then 3 else 4

/-- The bytes after the first one, of which `count` are written: each holds six bits. -/
def trailing (code : Nat) : Nat → List Nat
  | 0 => []
  | count + 1 => (0x80 + code / Nat.pow 64 count % 64) :: trailing code count

/-- The bytes of the character with a code. -/
def bytes (code : Nat) : List Nat :=
  match width code with
  | 1 => [code]
  | 2 => (0xC0 + code / 64) :: trailing code 1
  | 3 => (0xE0 + code / (64 * 64)) :: trailing code 2
  | _ => (0xF0 + code / (64 * 64 * 64)) :: trailing code 3

/-- The bytes of a text. -/
def encode (text : List Char) : List Nat := text.flatMap fun c => bytes c.toNat

/-! ### Reading -/

/-- Whether a byte can follow the first one. -/
def isTrailing (byte : Nat) : Bool := 0x80 ≤ byte && byte < 0xC0

/-- The character at the front of some bytes, with the bytes after it. -/
def decodeChar? : List Nat → Option (Char × List Nat)
  | [] => none
  | a :: rest =>
      if a < 0x80 then some (Char.ofNat a, rest)
      else if a < 0xC2 then none
      else if a < 0xE0 then
        match rest with
        | b :: rest =>
            if isTrailing b then some (Char.ofNat ((a - 0xC0) * 64 + (b - 0x80)), rest) else none
        | _ => none
      else if a < 0xF0 then
        match rest with
        | b :: c :: rest =>
            let code := ((a - 0xE0) * 64 + (b - 0x80)) * 64 + (c - 0x80)
            if isTrailing b && isTrailing c && 0x800 ≤ code && code.isValidChar then
              some (Char.ofNat code, rest)
            else none
        | _ => none
      else if a < 0xF5 then
        match rest with
        | b :: c :: d :: rest =>
            let code := (((a - 0xF0) * 64 + (b - 0x80)) * 64 + (c - 0x80)) * 64 + (d - 0x80)
            if isTrailing b && isTrailing c && isTrailing d && 0x10000 ≤ code &&
                code.isValidChar then
              some (Char.ofNat code, rest)
            else none
        | _ => none
      else none

theorem length_lt_of_decodeChar? {data rest : List Nat} {c : Char}
    (h : decodeChar? data = some (c, rest)) : rest.length < data.length := by
  unfold decodeChar? at h
  split at h
  · simp at h
  · grind

/-- The text of some bytes, if they are the form of one; `read` holds the characters before them,
the last one first. -/
def decodeFrom (read : List Char) (data : List Nat) : Option (List Char) :=
  if data.isEmpty then some read.reverse
  else
    match _h : decodeChar? data with
    | none => none
    | some (c, rest) => decodeFrom (c :: read) rest
termination_by data.length
decreasing_by exact length_lt_of_decodeChar? _h

/-- **The text of some bytes, if they are the form of one.** -/
def decode? (data : List Nat) : Option (List Char) := decodeFrom [] data

end ParamTemplate.Utf8
