/-
**What is hidden behind tokens, and what looks as if it were.**

Hiding and putting back are one pass over a text each.  They can as well be done one kind of token
at a time: replace every ampersand, then every escaped brace; put back every escaped brace, then
every ampersand.  That this is the same needs an argument, because the second replacement reads what
the first one wrote: what is written for an ampersand has no backslash in it, so it makes no escaped
brace, and what is put back for a brace starts with a backslash, so it completes no token of an
ampersand.

Every text can be decoded, but not every text is the encoding of one.  Encoding what was decoded
gives the text back exactly if each of its ampersands starts a token and none of its braces is
escaped.

Main definitions:

* `Template.replaceAll` — replace a text everywhere, from left to right;
* `Template.IsEncoded` — the texts with no ampersand but in tokens, and no escaped brace.

Main results:

* `Template.encode_eq_replaceAll`, `Template.decode_eq_replaceAll` — one kind of token at a time;
* `Template.isEncoded_encode` — what was hidden is not seen;
* `Template.encode_decode_inverse` — **hiding and putting back are inverse to each other**, from all
  texts to the encoded ones and back.
-/

import ParamTemplate.Template.Token

set_option autoImplicit false

namespace ParamTemplate.Template

variable {text rest old new : List Char} {c : Char}

/-! ### One kind of token at a time -/

/-- **Replace a text everywhere,** from left to right; what was replaced is not read again. -/
def replaceAll (old new : List Char) : List Char → List Char
  | [] => []
  | c :: rest =>
      if old <+: c :: rest then new ++ replaceAll old new (rest.drop (old.length - 1))
      else c :: replaceAll old new rest
termination_by text => text.length

@[simp] theorem replaceAll_nil : replaceAll old new [] = [] := by rw [replaceAll]

/-- What starts with the text that is replaced. -/
theorem replaceAll_append (old : List Char) (h : old ≠ []) :
    replaceAll old new (old ++ rest) = new ++ replaceAll old new rest := by
  obtain ⟨c, tail, rfl⟩ := List.exists_cons_of_ne_nil h
  rw [List.cons_append, replaceAll, if_pos ⟨rest, rfl⟩]
  simp

theorem replaceAll_cons (h : ¬old <+: c :: rest) :
    replaceAll old new (c :: rest) = c :: replaceAll old new rest := by
  rw [replaceAll, if_neg h]

/-- A character that the text to replace does not start with stays. -/
theorem replaceAll_cons_of_ne {d : Char} {tail : List Char} (h : c ≠ d) :
    replaceAll (d :: tail) new (c :: rest) = c :: replaceAll (d :: tail) new rest :=
  replaceAll_cons fun hstarts => h (List.cons_prefix_cons.1 hstarts).1.symm

/-- An escaped brace. -/
def escapedBrace : List Char := ['\\', '{']

/-- Characters that are no ampersands stay in front of a text in which ampersands are replaced, so
the first character of that text is what it was. -/
theorem head?_replaceAll_ampersand (text : List Char) :
    (replaceAll ['&'] ampersandToken text).head? = text.head? := by
  cases text with
  | nil => simp
  | cons c rest =>
      by_cases hc : c = '&'
      · subst hc
        have hfirst : replaceAll ['&'] ampersandToken ('&' :: rest) =
            ampersandToken ++ replaceAll ['&'] ampersandToken rest :=
          replaceAll_append ['&'] (by decide)
        rw [hfirst]
        rfl
      · rw [replaceAll_cons_of_ne hc]
        rfl

/-- **Ampersands first, escaped braces second.** -/
theorem encode_eq_replaceAll (text : List Char) :
    encode text =
      replaceAll escapedBrace braceToken (replaceAll ['&'] ampersandToken text) := by
  fun_induction encode text with
  | case1 => simp
  | case2 rest ih =>
      have hfirst : replaceAll ['&'] ampersandToken ('\\' :: '{' :: rest) =
          escapedBrace ++ replaceAll ['&'] ampersandToken rest := by
        rw [replaceAll_cons_of_ne (by decide), replaceAll_cons_of_ne (by decide)]
        rfl
      rw [hfirst, replaceAll_append _ (by decide), ih]
  | case3 rest ih =>
      have hfirst : replaceAll ['&'] ampersandToken ('&' :: rest) =
          ampersandToken ++ replaceAll ['&'] ampersandToken rest :=
        replaceAll_append ['&'] (by decide)
      rw [hfirst, ih]
      -- a token has no backslash in it
      simp only [ampersandToken, escapedBrace, List.cons_append, List.nil_append]
      iterate 5 rw [replaceAll_cons_of_ne (by decide)]
  | case4 c rest hesc hamp ih =>
      rw [replaceAll_cons_of_ne hamp, replaceAll_cons, ih]
      intro hstarts
      obtain ⟨rfl, hbrace⟩ := List.cons_prefix_cons.1 hstarts
      have hhead := head?_replaceAll_ampersand rest
      obtain ⟨tail, htail⟩ := hbrace
      rw [← htail] at hhead
      cases rest with
      | nil => simp at hhead
      | cons d rest => exact hesc rest rfl (by simpa using hhead.symm)

/-- A text without backslashes in front of a text in which escaped braces were put back was there
before. -/
theorem prefix_of_prefix_replaceAll {front : List Char} (hfront : '\\' ∉ front)
    (h : front <+: replaceAll braceToken escapedBrace text) : front <+: text := by
  induction front generalizing text with
  | nil => exact List.nil_prefix
  | cons d front ih =>
      rw [List.mem_cons, not_or] at hfront
      cases text with
      | nil => simp at h
      | cons c rest =>
          by_cases hbrace : braceToken <+: c :: rest
          · obtain ⟨tail, htail⟩ := hbrace
            rw [← htail, replaceAll_append _ (by decide)] at h
            exact absurd (List.cons_prefix_cons.1 h).1.symm hfront.1
          · rw [replaceAll_cons hbrace] at h
            obtain ⟨rfl, htail⟩ := List.cons_prefix_cons.1 h
            exact List.cons_prefix_cons.2 ⟨rfl, ih hfront.2 htail⟩

/-- **Escaped braces first, ampersands second.** -/
theorem decode_eq_replaceAll (text : List Char) :
    decode text =
      replaceAll ampersandToken ['&'] (replaceAll braceToken escapedBrace text) := by
  fun_induction decode text with
  | case1 => simp
  | case2 rest ih =>
      have hfirst : replaceAll braceToken escapedBrace ('&' :: '0' :: '0' :: '0' :: ';' :: rest) =
          escapedBrace ++ replaceAll braceToken escapedBrace rest :=
        replaceAll_append braceToken (by decide)
      rw [hfirst, ih]
      -- what was put back has no ampersand in it
      simp only [escapedBrace, ampersandToken, List.cons_append, List.nil_append]
      iterate 2 rw [replaceAll_cons_of_ne (by decide)]
  | case3 rest ih =>
      have hfirst : replaceAll braceToken escapedBrace ('&' :: 'b' :: 's' :: 'p' :: ';' :: rest) =
          ampersandToken ++ replaceAll braceToken escapedBrace rest := by
        rw [replaceAll_cons (by simp [braceToken, List.cons_prefix_cons])]
        simp only [braceToken]
        iterate 4 rw [replaceAll_cons_of_ne (by decide)]
        rfl
      rw [hfirst, replaceAll_append _ (by decide), ih]
      rfl
  | case4 c rest hbrace hamp ih =>
      have hfirst : replaceAll braceToken escapedBrace (c :: rest) =
          c :: replaceAll braceToken escapedBrace rest := by
        refine replaceAll_cons ?_
        rintro ⟨tail, htail⟩
        obtain ⟨rfl, rfl⟩ := List.cons.inj htail
        exact hbrace tail rfl rfl
      rw [hfirst, replaceAll_cons, ih]
      intro hstarts
      obtain ⟨rfl, hbehind⟩ := List.cons_prefix_cons.1 hstarts
      have htoken : '\\' ∉ ['b', 's', 'p', ';'] := by decide
      obtain ⟨tail, rfl⟩ := prefix_of_prefix_replaceAll htoken hbehind
      exact hamp tail rfl rfl

/-! ### Encoded texts -/

/-- **An encoded text:** its ampersands start tokens, and none of its opening braces is escaped. -/
structure IsEncoded (text : List Char) : Prop where
  token {before after : List Char} :
    text = before ++ '&' :: after → ampersandToken <+: '&' :: after ∨ braceToken <+: '&' :: after
  not_escaped : ¬escapedBrace <:+: text

theorem IsEncoded.nil : IsEncoded [] where
  token h := by simp at h
  not_escaped := by simp [escapedBrace]

/-- What follows in an encoded text is an encoded text. -/
theorem IsEncoded.of_append (start : List Char) (h : IsEncoded (start ++ rest)) :
    IsEncoded rest where
  token heq := h.token (by rw [heq, List.append_assoc])
  not_escaped hwithin := h.not_escaped (hwithin.trans (List.suffix_append ..).isInfix)

/-- A character in front of an encoded text: an ampersand has to start a token, a backslash may
stand before no brace. -/
theorem IsEncoded.cons (h : IsEncoded rest)
    (htoken : c = '&' → ampersandToken <+: '&' :: rest ∨ braceToken <+: '&' :: rest)
    (hescaped : c = '\\' → rest.head? ≠ some '{') : IsEncoded (c :: rest) where
  token {before after} heq := by
    cases before with
    | nil =>
        obtain ⟨hc, rfl⟩ := List.cons.inj heq
        exact htoken hc
    | cons d before => exact h.token (List.cons.inj heq).2
  not_escaped hwithin := by
    rcases List.infix_cons_iff.1 hwithin with hstarts | hwithin
    · obtain ⟨hc, tail, rfl⟩ := List.cons_prefix_cons.1 hstarts
      exact hescaped hc.symm rfl
    · exact h.not_escaped hwithin

/-- Characters that are neither ampersands nor backslashes may stand anywhere. -/
theorem IsEncoded.append (start : List Char) (h : IsEncoded rest) (hamp : '&' ∉ start)
    (hback : '\\' ∉ start) : IsEncoded (start ++ rest) := by
  induction start with
  | nil => exact h
  | cons c start ih =>
      rw [List.mem_cons, not_or] at hamp hback
      exact (ih hamp.2 hback.2).cons (fun hc => absurd hc.symm hamp.1)
        fun hc => absurd hc.symm hback.1

/-- The first character of an encoding is a brace only if the text starts with it. -/
theorem head?_encode (h : (encode text).head? = some '{') : text.head? = some '{' := by
  fun_cases encode text with
  | case1 => exact h
  | case2 => simp [encode, braceToken] at h
  | case3 => simp [encode, ampersandToken] at h
  | case4 c rest hesc hamp =>
      rw [encode] at h
      · simpa using h
      · exact hesc
      · exact hamp

/-- **What was hidden is not seen.** -/
theorem isEncoded_encode (text : List Char) : IsEncoded (encode text) := by
  fun_induction encode text with
  | case1 => exact .nil
  | case2 rest ih =>
      exact (ih.append braceToken.tail (by decide) (by decide)).cons
        (fun _ => .inr ⟨encode rest, rfl⟩) fun h => absurd h (by decide)
  | case3 rest ih =>
      exact (ih.append ampersandToken.tail (by decide) (by decide)).cons
        (fun _ => .inl ⟨encode rest, rfl⟩) fun h => absurd h (by decide)
  | case4 c rest hesc hamp ih =>
      refine ih.cons (fun hc => absurd hc hamp) fun hc hhead => ?_
      have hrest := head?_encode hhead
      cases rest with
      | nil => simp at hrest
      | cons d rest => exact hesc rest hc (by simpa using hrest)

/-- The first character of what was decoded is a brace only if the text starts with it. -/
theorem head?_decode (h : (decode text).head? = some '{') : text.head? = some '{' := by
  fun_cases decode text with
  | case1 => exact h
  | case2 => simp [decode] at h
  | case3 => simp [decode] at h
  | case4 c rest hbrace hamp =>
      rw [decode] at h
      · simpa using h
      · exact hbrace
      · exact hamp

/-- An encoded text is the encoding of what it is decoded to. -/
theorem encode_decode (h : IsEncoded text) : encode (decode text) = text := by
  fun_induction decode text with
  | case1 => rfl
  | case2 rest ih => rw [encode, ih (h.of_append braceToken)]; rfl
  | case3 rest ih => rw [encode, ih (h.of_append ampersandToken)]; rfl
  | case4 c rest hbrace hamp ih =>
      rw [encode, ih (h.of_append [c])]
      · rintro tail rfl htail
        have hhead : rest.head? = some '{' := head?_decode (by rw [htail]; rfl)
        obtain ⟨d, tail, rfl⟩ : ∃ d tail, rest = d :: tail := by
          cases rest with
          | nil => simp at hhead
          | cons d tail => exact ⟨d, tail, rfl⟩
        obtain rfl : d = '{' := by simpa using hhead
        exact h.not_escaped ⟨[], tail, rfl⟩
      · rintro rfl
        have hstart : '&' :: rest = [] ++ '&' :: rest := rfl
        rcases h.token hstart with ⟨tail, htail⟩ | ⟨tail, htail⟩
        · exact hamp tail rfl (List.cons.inj htail).2.symm
        · exact hbrace tail rfl (List.cons.inj htail).2.symm

/-- **Hiding and putting back are inverse to each other.**  Every text is put back, whatever it
looks like; and what was put back is hidden as before exactly if the text was encoded. -/
theorem encode_decode_inverse :
    (∀ text, decode (encode text) = text) ∧
      ∀ text, encode (decode text) = text ↔ IsEncoded text := by
  refine ⟨decode_encode, fun text => ⟨fun h => ?_, encode_decode⟩⟩
  rw [← h]
  exact isEncoded_encode _

end ParamTemplate.Template
