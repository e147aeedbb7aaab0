/-
**Records in JSON.**

A record is written on one line, without blanks.  In texts the quotation mark, the reverse solidus
and the control characters up to U+001F are escaped, and nothing else.

Main definitions:

* `Text.Json` — the values that records are made of;
* `Text.Json.escape` — a character inside a text;
* `Text.Json.render` — the written form of a value.
-/

set_option autoImplicit false

namespace ParamTemplate.Text

/-- A value of a record. -/
inductive Json where
  | null
  | bool (value : Bool)
  | text (chars : List Char)
  | object (fields : List (List Char × Json))

namespace Json

/-- A hexadecimal digit. -/
def hexDigit (n : Nat) : Char := "0123456789abcdef".toList.getD n '0'

/-- A character inside a text. -/
def escape (c : Char) : List Char :=
  if c = '"' then ['\\', '"']
  else if c = '\\' then ['\\', '\\']
  else if c = '\x08' then ['\\', 'b']
  else if c = '\t' then ['\\', 't']
  else if c = '\n' then ['\\', 'n']
  else if c = '\x0c' then ['\\', 'f']
  else if c = '\r' then ['\\', 'r']
  else if c.toNat < 0x20 then
    ['\\', 'u', '0', '0', hexDigit (c.toNat / 16), hexDigit (c.toNat % 16)]
  else [c]

/-- A text with the marks around it. -/
def quote (chars : List Char) : List Char := '"' :: chars.flatMap escape ++ ['"']

mutual

/-- **The written form of a value.** -/
def render : Json → List Char
  | null => "null".toList
  | bool true => "true".toList
  | bool false => "false".toList
  | text chars => quote chars
  | object fields => '\x7b' :: renderFields fields ++ ['\x7d']

/-- The fields of an object, with commas between them. -/
def renderFields : List (List Char × Json) → List Char
  | [] => []
  | [(key, value)] => quote key ++ ':' :: value.render
  | (key, value) :: next :: rest =>
      quote key ++ ':' :: value.render ++ ',' :: renderFields (next :: rest)

end

end Json

end ParamTemplate.Text
