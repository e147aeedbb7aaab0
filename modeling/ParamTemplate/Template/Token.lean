/-
**Tokens for what must not be seen as structure.**

Before a template is cut into pieces, the escaped brace `\{` is hidden behind a token, so that every
brace that is left is structure.  Tokens start with an ampersand; an ampersand of the template is
therefore hidden behind a token of its own.

Main definitions:

* `Template.encode` — hide ampersands and escaped braces behind tokens;
* `Template.decode` — put them back; any text can be decoded, and what is no token stays as it is.

Main statement:

* `Template.decode_encode` — what was hidden is put back.
-/

set_option autoImplicit false

namespace ParamTemplate.Template

/-- The token for an ampersand. -/
def ampersandToken : List Char := ['&', 'b', 's', 'p', ';']

/-- The token for an escaped brace. -/
def braceToken : List Char := ['&', '0', '0', '0', ';']

/-- **Hide ampersands and escaped braces behind tokens.** -/
def encode : List Char → List Char
  | [] => []
  | '\\' :: '{' :: rest => braceToken ++ encode rest
  | '&' :: rest => ampersandToken ++ encode rest
  | c :: rest => c :: encode rest

/-- **Put ampersands and escaped braces back for their tokens.** -/
def decode : List Char → List Char
  | [] => []
  | '&' :: '0' :: '0' :: '0' :: ';' :: rest => '\\' :: '{' :: decode rest
  | '&' :: 'b' :: 's' :: 'p' :: ';' :: rest => '&' :: decode rest
  | c :: rest => c :: decode rest

@[simp] theorem encode_nil : encode [] = [] := rfl

@[simp] theorem decode_nil : decode [] = [] := rfl

@[simp] theorem decode_braceToken (rest : List Char) :
    decode (braceToken ++ rest) = '\\' :: '{' :: decode rest := rfl

@[simp] theorem decode_ampersandToken (rest : List Char) :
    decode (ampersandToken ++ rest) = '&' :: decode rest := rfl

/-- A character that starts no token stays as it is. -/
theorem decode_cons {c : Char} (h : c ≠ '&') (rest : List Char) :
    decode (c :: rest) = c :: decode rest := by
  rw [decode]
  · rintro _ rfl
    exact absurd rfl h
  · rintro _ rfl
    exact absurd rfl h

/-- Only the empty text is decoded to the empty text. -/
theorem decode_ne_nil {text : List Char} (h : text ≠ []) : decode text ≠ [] := by
  fun_cases decode text with
  | case1 => exact absurd rfl h
  | case2 | case3 | case4 => exact List.cons_ne_nil _ _

/-- **What was hidden is put back.** -/
theorem decode_encode (text : List Char) : decode (encode text) = text := by
  fun_induction encode text with
  | case1 => rfl
  | case2 rest ih => rw [decode_braceToken, ih]
  | case3 rest ih => rw [decode_ampersandToken, ih]
  | case4 c rest _ hne ih => rw [decode_cons hne, ih]

end ParamTemplate.Template
