/-
**Quoted texts.**

A text is shown between quotation marks.  Inside, the quotation mark and the reverse solidus are
escaped, the null character, tab, line feed and carriage return have escapes of their own, and what
cannot be shown by itself is given by its code.

Main definitions:

* `Text.Quoted.escape` — a character inside a quoted text;
* `Text.Quoted.quote` — a text between quotation marks.
-/

import ParamTemplate.Unicode.Printable

set_option autoImplicit false

namespace ParamTemplate.Text.Quoted

/-- A character inside a quoted text. -/
def escape (c : Char) : List Char :=
  if c = '\x00' then ['\\', '0']
  else if c = '\t' then ['\\', 't']
  else if c = '\r' then ['\\', 'r']
  else if c = '\n' then ['\\', 'n']
  else if c = '\\' then ['\\', '\\']
  else if c = '"' then ['\\', '"']
  else if Unicode.isPrintable c then [c]
  else '\\' :: 'u' :: '\x7b' :: Nat.toDigits 16 c.toNat ++ ['\x7d']

/-- **A text between quotation marks.** -/
def quote (text : List Char) : List Char := '"' :: text.flatMap escape ++ ['"']

end ParamTemplate.Text.Quoted
