/-
**Printing a template and cutting it again.**

A template is written down part by part: literal text as it is, the body of a placeholder between
two opening and two closing braces.  A placeholder at the end may be left without its closing
braces.  Not every list of parts can be read off what is written, because a brace of a text can come
to stand beside a brace of a delimiter; a list of parts is well formed if that does not happen.

The cutter works on the encoded template and holds one brace back.  The invariant that carries the
proof says what has been written once the brace that is held back is released
(`Template.Cutter.Wrote`), and which brace that is: the last character that could be half of a
delimiter.  A text is written without a delimiter in it exactly as long as no two such characters
stand side by side.

Main definitions:

* `Template.Part`, `Template.print` — the parts of a template and how they are written;
* `Template.openers`, `Template.closers` — the characters of a text that could be half of a
  delimiter;
* `Template.WellFormed` — the lists of parts that can be read off what is written;
* `Template.Part.pieces` — the pieces that a part makes: a placeholder without a body makes none.

Main results:

* `Template.encode_append` — a text is encoded part by part, unless an escaped brace is cut in two;
* `Template.cut_print` — **cutting a printed list of parts gives its pieces**;
* `Template.not_cut_print_map` — a placeholder without a body is not given back.
-/

import Mathlib.Data.List.Basic
import ParamTemplate.Template.Piece

set_option autoImplicit false

namespace ParamTemplate.Template

/-! ### Parts -/

/-- A part of a template, as it is written. -/
inductive Part where
  | literal (text : List Char)
  | closed (body : List Char)
  | unclosed (body : List Char)
deriving DecidableEq, Repr

namespace Part

/-- How a part is written. -/
def print : Part → List Char
  | literal text => text
  | closed body => '{' :: '{' :: (body ++ ['}', '}'])
  | unclosed body => '{' :: '{' :: body

/-- The literal text, or the body of the placeholder. -/
def text : Part → List Char
  | literal text | closed text | unclosed text => text

/-- The piece that a part is. -/
def piece : Part → Piece
  | literal text => .literal text
  | closed body | unclosed body => .placeholder body

/-- The pieces that a part makes: one, or none if it has no text. -/
def pieces (part : Part) : List Piece := if part.text.isEmpty then [] else [part.piece]

@[simp] theorem reverse_pieces (part : Part) : part.pieces.reverse = part.pieces := by
  unfold pieces
  split <;> rfl

@[simp] theorem pieces_literal_nil : (literal []).pieces = [] := rfl

theorem pieces_unclosed (body : List Char) : (unclosed body).pieces = (closed body).pieces := rfl

end Part

/-- How a list of parts is written. -/
def print (parts : List Part) : List Char := parts.flatMap Part.print

@[simp] theorem print_nil : print [] = [] := rfl

@[simp] theorem print_cons (part : Part) (rest : List Part) :
    print (part :: rest) = part.print ++ print rest := List.flatMap_cons ..

/-! ### Characters that could be half of a delimiter -/

/-- Whether a character is an opening brace that is not escaped; `before` is the character just
before it. -/
def isOpener (before : Option Char) (c : Char) : Bool := c = '{' && before ≠ some '\\'

/-- For every character of a text, whether it is an opening brace that is not escaped. -/
def openers (before : Option Char) : List Char → List Bool
  | [] => []
  | c :: rest => isOpener before c :: openers (some c) rest

/-- The number of open braces after a character: an opening brace that is not escaped adds one, a
closing brace takes one away. -/
def depthAfter (before : Option Char) (depth : Nat) (c : Char) : Nat :=
  if isOpener before c then depth + 1 else if c = '}' then depth - 1 else depth

/-- For every character of a body, whether it is a closing brace that is read where no brace is
open. -/
def closers (before : Option Char) (depth : Nat) : List Char → List Bool
  | [] => []
  | c :: rest => (c = '}' && depth = 0) :: closers (some c) (depthAfter before depth c) rest

/-- The number of open braces after a body. -/
def finalDepth (before : Option Char) (depth : Nat) : List Char → Nat
  | [] => depth
  | c :: rest => finalDepth (some c) (depthAfter before depth c) rest

/-- No two marks stand side by side. -/
def Sparse (marks : List Bool) : Prop := List.IsChain (fun a b => ¬(a = true ∧ b = true)) marks

instance (marks : List Bool) : Decidable (Sparse marks) :=
  inferInstanceAs (Decidable (List.IsChain _ marks))

/-- The last character is not marked. -/
def EndsClear (marks : List Bool) : Prop := marks.getLast? ≠ some true

instance (marks : List Bool) : Decidable (EndsClear marks) :=
  inferInstanceAs (Decidable (_ ≠ _))

/-! ### Well-formed lists of parts -/

/-- A literal text can stand before the parts that follow it. -/
def FitsBefore (text : List Char) : List Part → Prop
  | [] => True
  | .literal _ :: _ => False
  | _ => EndsClear (openers none text) ∧ text.getLast? ≠ some '\\'

instance (text : List Char) : (rest : List Part) → Decidable (FitsBefore text rest)
  | [] => inferInstanceAs (Decidable True)
  | .literal _ :: _ => inferInstanceAs (Decidable False)
  | .closed _ :: _ | .unclosed _ :: _ => inferInstanceAs (Decidable (_ ∧ _))

/-- **The lists of parts that can be read off what is written.**  Literals have text, are no
neighbours and contain no two adjacent opening braces that are not escaped; before a placeholder a
literal ends neither in such a brace nor in a backslash.  A body contains no two adjacent closing
braces that are read where no brace is open; if it is closed, it ends where no brace is open, and
not in such a brace.  Only the last part may be a placeholder that is not closed. -/
def WellFormed : List Part → Prop
  | [] => True
  | .literal text :: rest =>
      text ≠ [] ∧ Sparse (openers none text) ∧ FitsBefore text rest ∧ WellFormed rest
  | .closed body :: rest =>
      Sparse (closers none 0 body) ∧ finalDepth none 0 body = 0 ∧
        EndsClear (closers none 0 body) ∧ WellFormed rest
  | .unclosed body :: rest => Sparse (closers none 0 body) ∧ rest = []

instance decidableWellFormed : (parts : List Part) → Decidable (WellFormed parts)
  | [] => inferInstanceAs (Decidable True)
  | .literal _ :: rest =>
      have := decidableWellFormed rest
      inferInstanceAs (Decidable (_ ∧ _ ∧ _ ∧ _))
  | .closed _ :: rest =>
      have := decidableWellFormed rest
      inferInstanceAs (Decidable (_ ∧ _ ∧ _ ∧ _))
  | .unclosed _ :: _ => inferInstanceAs (Decidable (_ ∧ _))

/-! ### Encoding a text part by part -/

/-- What is last of a text is last of a longer one. -/
private theorem getLast?_cons_of_eq_some {text : List Char} {c d : Char}
    (h : text.getLast? = some d) : (c :: text).getLast? = some d := by
  cases text with
  | nil => simp at h
  | cons e text => simpa using h

/-- A text is encoded part by part, unless an escaped brace is cut in two. -/
theorem encode_append (text : List Char) {rest : List Char}
    (h : text.getLast? = some '\\' → rest.head? ≠ some '{') :
    encode (text ++ rest) = encode text ++ encode rest := by
  fun_induction encode text with
  | case1 => rfl
  | case2 text ih =>
      have h' := fun hlast => h (getLast?_cons_of_eq_some (getLast?_cons_of_eq_some hlast))
      simp [encode, ih h']
  | case3 text ih =>
      have h' := fun hlast => h (getLast?_cons_of_eq_some hlast)
      simp [encode, ih h']
  | case4 c text hesc hamp ih =>
      have h' := fun hlast => h (getLast?_cons_of_eq_some hlast)
      -- the only new occurrence of an escaped brace would be the one that is cut in two
      rw [List.cons_append, encode, ih h', List.cons_append]
      · intro tail hc ht
        cases text with
        | nil =>
            subst hc
            rw [List.nil_append] at ht
            exact h rfl (by rw [ht]; rfl)
        | cons d text =>
            rw [List.cons_append, List.cons.injEq] at ht
            exact hesc text hc (by rw [ht.1])
      · exact hamp

/-! ### Writing without delimiters -/

namespace Cutter

/-- `s.Wrote text held depth t` says that `t` is what `s` becomes by `text` when there is no
delimiter in it: once the brace that is held back is released, the text stands in the buffer. -/
structure Wrote (s : Cutter) (text : List Char) (held : Bool) (depth : Nat) (t : Cutter) :
    Prop where
  held_eq : t.held = held
  release_eq : t.release =
    { s.release with depth := depth, buffer := text.reverse ++ s.release.buffer }

theorem Wrote.refl (s : Cutter) : s.Wrote [] s.held s.depth s where
  held_eq := rfl
  release_eq := by unfold release; split <;> rfl

theorem Wrote.trans {s t u : Cutter} {first second : List Char} {held held' : Bool}
    {depth depth' : Nat} (h : s.Wrote first held depth t) (h' : t.Wrote second held' depth' u) :
    s.Wrote (first ++ second) held' depth' u where
  held_eq := h'.held_eq
  release_eq := by rw [h'.release_eq, h.release_eq]; simp

@[simp] theorem inside_release (s : Cutter) : s.release.inside = s.inside := by
  unfold release; split <;> rfl

theorem Wrote.inside_eq {s t : Cutter} {text : List Char} {held : Bool} {depth : Nat}
    (h : s.Wrote text held depth t) : t.inside = s.inside := by
  have := congrArg Cutter.inside h.release_eq
  simpa using this

theorem Wrote.depth_eq {s t : Cutter} {text : List Char} {held : Bool} {depth : Nat}
    (h : s.Wrote text held depth t) : t.depth = depth := by
  have := congrArg Cutter.depth h.release_eq
  unfold release at this
  split at this <;> exact this

/-- A state in which no brace is held back is given by what was written. -/
theorem Wrote.eq {s t : Cutter} {text : List Char} {depth : Nat}
    (h : s.Wrote text false depth t) :
    t = { s.release with depth := depth, buffer := text.reverse ++ s.release.buffer } := by
  have := h.release_eq
  rwa [release, if_neg (by simp [h.held_eq])] at this

/-- A character that is no brace is written. -/
theorem wrote_feed_of_ne (s : Cutter) {c : Char} (ho : c ≠ '{') (hc : c ≠ '}') :
    s.Wrote [c] false s.depth (s.feed c) := by
  have hfeed : s.feed c = s.release.push c := by
    simp [feed, feedLiteral, feedPlaceholder, ho, hc]
  rw [hfeed]
  constructor <;> by_cases hh : s.held <;> simp [release, push, hh]

/-- Characters that are no braces are written. -/
theorem wrote_feedAll_of_not_mem (s : Cutter) (text : List Char) (hne : text ≠ [])
    (ho : '{' ∉ text) (hc : '}' ∉ text) : s.Wrote text false s.depth (s.feedAll text) := by
  induction text generalizing s with
  | nil => exact absurd rfl hne
  | cons c text ih =>
      rw [List.mem_cons, not_or] at ho hc
      have hfirst := s.wrote_feed_of_ne (Ne.symm ho.1) (Ne.symm hc.1)
      cases text with
      | nil => exact hfirst
      | cons d text =>
          have hrest := ih (s.feed c) (by simp) ho.2 hc.2
          rw [hfirst.depth_eq] at hrest
          exact hfirst.trans hrest

/-- Outside of placeholders an opening brace is written, unless another one is held back. -/
theorem wrote_feed_literal {s : Cutter} (hin : s.inside = false) {c : Char}
    (h : ¬(s.held = true ∧ c = '{')) : s.Wrote [c] (c = '{') s.depth (s.feed c) := by
  by_cases ho : c = '{'
  · have hh : s.held = false := by simpa [ho] using h
    subst ho
    constructor <;> simp [feed, feedLiteral, delimit, release, brace, hin, hh]
  · constructor <;> by_cases hh : s.held <;>
      simp [feed, feedLiteral, release, push, brace, hin, hh, ho]

/-- Inside a placeholder a closing brace is written if a brace is open, or if no other one is held
back. -/
theorem wrote_feed_body {s : Cutter} (hin : s.inside = true) {c : Char}
    (h : ¬(s.held = true ∧ c = '}' ∧ s.depth = 0)) (hheld : s.held = true → s.depth = 0) :
    s.Wrote [c] (c = '}' && s.depth = 0)
      (if c = '{' then s.depth + 1 else if c = '}' then s.depth - 1 else s.depth) (s.feed c) := by
  by_cases hc : c = '}'
  · subst hc
    by_cases hd : s.depth = 0
    · have hh : s.held = false := by simpa [hd] using h
      constructor <;> simp [feed, feedPlaceholder, delimit, release, brace, hin, hh, hd]
    · have hh : s.held = false := by
        cases hheld' : s.held with
        | false => rfl
        | true => exact absurd (hheld hheld') hd
      have hpos : 0 < s.depth := by omega
      constructor <;> simp [feed, feedPlaceholder, release, push, hin, hh, hd, hpos]
  · constructor <;> by_cases ho : c = '{' <;> by_cases hh : s.held <;>
      simp [feed, feedPlaceholder, release, push, brace, hin, hh, ho, hc]

/-- A brace that is not part of an escaped one is an opener. -/
theorem isOpener_eq {before : Option Char} {c : Char} (h : before = some '\\' → c ≠ '{') :
    isOpener before c = decide (c = '{') := by
  by_cases hc : c = '{'
  · have hb : before ≠ some '\\' := fun hb => h hb hc
    simp [isOpener, hc, hb]
  · simp [isOpener, hc]

/-- **A text without a delimiter is written outside of placeholders,** and its last character is
held back if it is an opener. -/
theorem wrote_encode_literal {text : List Char} {before : Option Char} {s : Cutter}
    (hin : s.inside = false) (hb : before = some '\\' → text.head? ≠ some '{')
    (h : Sparse (s.held :: openers before text)) :
    s.Wrote (encode text) ((openers before text).getLast?.getD s.held) s.depth
      (s.feedAll (encode text)) := by
  -- the two characters of an escaped brace are taken together, as the encoding takes them
  fun_induction encode text generalizing s before with
  | case1 => exact .refl s
  | case2 text ih =>
      have hfirst := s.wrote_feedAll_of_not_mem braceToken (by decide) (by decide)
        (by decide)
      have hmarks : openers before ('\\' :: '{' :: text) =
          false :: false :: openers (some '{') text := by simp [openers, isOpener]
      rw [hmarks] at h ⊢
      have hrest := @ih (some '{') (s.feedAll braceToken)
        (by rw [hfirst.inside_eq, hin]) (by simp)
        (by rw [hfirst.held_eq]; exact (List.isChain_cons_cons.1 (List.isChain_cons_cons.1 h).2).2)
      rw [hfirst.held_eq, hfirst.depth_eq] at hrest
      rw [feedAll_append]
      simpa [List.getLast?_cons] using hfirst.trans hrest
  | case3 text ih =>
      have hfirst := s.wrote_feedAll_of_not_mem ampersandToken (by decide) (by decide)
        (by decide)
      have hmarks : openers before ('&' :: text) = false :: openers (some '&') text := by
        simp [openers, isOpener]
      rw [hmarks] at h ⊢
      have hrest := @ih (some '&') (s.feedAll ampersandToken)
        (by rw [hfirst.inside_eq, hin]) (by simp)
        (by rw [hfirst.held_eq]; exact (List.isChain_cons_cons.1 h).2)
      rw [hfirst.held_eq, hfirst.depth_eq] at hrest
      rw [feedAll_append]
      simpa [List.getLast?_cons] using hfirst.trans hrest
  | case4 c text hesc _ ih =>
      have hc : isOpener before c = decide (c = '{') :=
        isOpener_eq fun hbefore hc => hb hbefore (by rw [hc]; rfl)
      rw [openers, hc] at h ⊢
      have hpair := (List.isChain_cons_cons.1 h).1
      have hfirst := wrote_feed_literal hin (c := c) (by simpa using hpair)
      have hrest := @ih (some c) (s.feed c)
        (by rw [hfirst.inside_eq, hin])
        (by
          intro hbefore hhead
          obtain ⟨tail, rfl⟩ : ∃ tail, text = '{' :: tail := by
            cases text with
            | nil => simp at hhead
            | cons d tail => exact ⟨tail, by simpa using hhead⟩
          exact hesc tail (by simpa using hbefore) rfl)
        (by rw [hfirst.held_eq]; exact (List.isChain_cons_cons.1 h).2)
      rw [hfirst.held_eq, hfirst.depth_eq] at hrest
      rw [feedAll_cons]
      simpa [List.getLast?_cons] using hfirst.trans hrest

/-- **A body without a delimiter is written inside a placeholder,** and its last character is held
back if it is a closing brace that is read where no brace is open. -/
theorem wrote_encode_body {body : List Char} {before : Option Char} {s : Cutter}
    (hin : s.inside = true) (hheld : s.held = true → s.depth = 0)
    (hb : before = some '\\' → body.head? ≠ some '{')
    (h : Sparse (s.held :: closers before s.depth body)) :
    s.Wrote (encode body) ((closers before s.depth body).getLast?.getD s.held)
      (finalDepth before s.depth body) (s.feedAll (encode body)) := by
  fun_induction encode body generalizing s before with
  | case1 => exact .refl s
  | case2 body ih =>
      have hfirst := s.wrote_feedAll_of_not_mem braceToken (by decide) (by decide)
        (by decide)
      have hmarks : closers before s.depth ('\\' :: '{' :: body) =
          false :: false :: closers (some '{') s.depth body := by
        simp [closers, depthAfter, isOpener]
      have hdepth : finalDepth before s.depth ('\\' :: '{' :: body) =
          finalDepth (some '{') s.depth body := by simp [finalDepth, depthAfter, isOpener]
      rw [hmarks] at h ⊢
      rw [hdepth]
      have hrest := @ih (some '{') (s.feedAll braceToken)
        (by rw [hfirst.inside_eq, hin]) (by simp [hfirst.held_eq]) (by simp)
        (by
          rw [hfirst.held_eq, hfirst.depth_eq]
          exact (List.isChain_cons_cons.1 (List.isChain_cons_cons.1 h).2).2)
      rw [hfirst.held_eq, hfirst.depth_eq] at hrest
      rw [feedAll_append]
      simpa [List.getLast?_cons] using hfirst.trans hrest
  | case3 body ih =>
      have hfirst := s.wrote_feedAll_of_not_mem ampersandToken (by decide) (by decide)
        (by decide)
      have hmarks : closers before s.depth ('&' :: body) =
          false :: closers (some '&') s.depth body := by simp [closers, depthAfter, isOpener]
      have hdepth : finalDepth before s.depth ('&' :: body) =
          finalDepth (some '&') s.depth body := by simp [finalDepth, depthAfter, isOpener]
      rw [hmarks] at h ⊢
      rw [hdepth]
      have hrest := @ih (some '&') (s.feedAll ampersandToken)
        (by rw [hfirst.inside_eq, hin]) (by simp [hfirst.held_eq]) (by simp)
        (by rw [hfirst.held_eq, hfirst.depth_eq]; exact (List.isChain_cons_cons.1 h).2)
      rw [hfirst.held_eq, hfirst.depth_eq] at hrest
      rw [feedAll_append]
      simpa [List.getLast?_cons] using hfirst.trans hrest
  | case4 c body hesc _ ih =>
      have hc : isOpener before c = decide (c = '{') :=
        isOpener_eq fun hbefore hc => hb hbefore (by rw [hc]; rfl)
      have hdepth : depthAfter before s.depth c =
          if c = '{' then s.depth + 1 else if c = '}' then s.depth - 1 else s.depth := by
        simp [depthAfter, hc]
      rw [closers, hdepth] at h ⊢
      rw [finalDepth, hdepth]
      have hpair := (List.isChain_cons_cons.1 h).1
      have hfirst := wrote_feed_body hin (c := c) (by simpa using hpair) hheld
      have hrest := @ih (some c) (s.feed c)
        (by rw [hfirst.inside_eq, hin])
        (by
          rw [hfirst.held_eq, hfirst.depth_eq]
          intro hclose
          rw [Bool.and_eq_true, decide_eq_true_eq, decide_eq_true_eq] at hclose
          simp [hclose.1, hclose.2])
        (by
          intro hbefore hhead
          obtain ⟨tail, rfl⟩ : ∃ tail, body = '{' :: tail := by
            cases body with
            | nil => simp at hhead
            | cons d tail => exact ⟨tail, by simpa using hhead⟩
          exact hesc tail (by simpa using hbefore) rfl)
        (by rw [hfirst.held_eq, hfirst.depth_eq]; exact (List.isChain_cons_cons.1 h).2)
      rw [hfirst.held_eq, hfirst.depth_eq] at hrest
      rw [feedAll_cons]
      simpa [List.getLast?_cons] using hfirst.trans hrest

/-! ### Delimiters -/

@[simp] theorem encode_eq_nil {text : List Char} : encode text = [] ↔ text = [] := by
  constructor
  · intro h
    rw [← decode_encode text, h, decode_nil]
  · rintro rfl
    rfl

/-- The part that is complete when a text stands in the buffer. -/
def partOf (inside : Bool) (text : List Char) : Part :=
  if inside then .closed text else .literal text

/-- What stands in the buffer becomes a piece, unless it has no text. -/
theorem flush_encode {s : Cutter} (text : List Char) (h : s.buffer = (encode text).reverse) :
    s.flush = { s with buffer := [], pieces := (partOf s.inside text).pieces ++ s.pieces } := by
  by_cases ht : text = []
  · subst ht
    obtain ⟨inside, held, depth, buffer, done⟩ := s
    cases inside <;> simp_all [flush, partOf, Part.pieces, Part.text]
  · have hb : ¬s.buffer.isEmpty := by simpa [h] using ht
    have hd : decode s.buffer.reverse = text := by rw [h, List.reverse_reverse, decode_encode]
    rw [flush, if_neg hb, current, hd]
    cases hin : s.inside <;> simp [partOf, Part.pieces, Part.text, Part.piece, ht]

/-- Outside of placeholders, after some literal text. -/
def outside (text : List Char) (done : List Piece) : Cutter :=
  { buffer := (encode text).reverse, pieces := done }

/-- Inside a placeholder, before its body. -/
def opened (done : List Piece) : Cutter := { inside := true, pieces := done }

/-- Two opening braces open a placeholder. -/
theorem feedAll_open (text : List Char) (done : List Piece) :
    (outside text done).feedAll ['{', '{'] = opened ((Part.literal text).pieces ++ done) := by
  have hflush := (outside text done).flush_encode text rfl
  simp [feed, feedLiteral, delimit, outside, opened, partOf] at *
  simp [hflush]

/-- Two closing braces close a placeholder. -/
theorem feedAll_close {s : Cutter} {body : List Char} {done : List Piece}
    (h : (opened done).Wrote (encode body) false 0 s) :
    s.feedAll ['}', '}'] = outside [] ((Part.closed body).pieces ++ done) := by
  have hs : s = { opened done with buffer := (encode body).reverse } := by
    rw [h.eq]
    simp [opened, release]
  have hflush := s.flush_encode body (by rw [hs])
  subst hs
  simp [feed, feedPlaceholder, delimit, outside, opened, partOf] at *
  simp [hflush]

/-- The pieces at the end, when a text has been written. -/
theorem finish_of_wrote {s t : Cutter} {text : List Char} {held : Bool} {depth : Nat}
    (hs : s.release = s) (hb : s.buffer = []) (h : s.Wrote (encode text) held depth t) :
    t.finish = s.pieces.reverse ++ (partOf s.inside text).pieces := by
  have ht : t.release = { s with depth := depth, buffer := (encode text).reverse } := by
    rw [h.release_eq, hs, hb, List.append_nil]
  have hflush := t.release.flush_encode text (by rw [ht])
  rw [finish, hflush, ht, List.reverse_append, Part.reverse_pieces]

/-- A literal text that is written from the start of a piece on. -/
theorem wrote_outside {text : List Char} (done : List Piece) (h : Sparse (openers none text)) :
    (outside [] done).Wrote (encode text) ((openers none text).getLast?.getD false) 0
      ((outside [] done).feedAll (encode text)) := by
  have hbefore : (none : Option Char) = some '\\' → text.head? ≠ some '{' := nofun
  refine wrote_encode_literal rfl hbefore ?_
  change Sparse (false :: openers none text)
  cases hm : openers none text with
  | nil => exact .singleton _
  | cons mark marks => exact List.isChain_cons_cons.2 ⟨by simp, hm ▸ h⟩

/-- A body that is written from the start of a placeholder on. -/
theorem wrote_opened {body : List Char} (done : List Piece) (h : Sparse (closers none 0 body)) :
    (opened done).Wrote (encode body) ((closers none 0 body).getLast?.getD false)
      (finalDepth none 0 body) ((opened done).feedAll (encode body)) := by
  have hbefore : (none : Option Char) = some '\\' → body.head? ≠ some '{' := nofun
  refine wrote_encode_body rfl (fun _ => rfl) hbefore ?_
  change Sparse (false :: closers none 0 body)
  cases hm : closers none 0 body with
  | nil => exact .singleton _
  | cons mark marks => exact List.isChain_cons_cons.2 ⟨by simp, hm ▸ h⟩

end Cutter

/-! ### The result -/

/-- Marks that end clear leave no brace held back. -/
theorem EndsClear.getD_eq {marks : List Bool} (h : EndsClear marks) :
    marks.getLast?.getD false = false := by
  unfold EndsClear at h
  cases hm : marks.getLast? with
  | none => rfl
  | some mark =>
      cases mark with
      | false => rfl
      | true => exact absurd hm h

/-- The delimiters of a placeholder are encoded as they are. -/
theorem encode_braces (text : List Char) :
    encode ('{' :: '{' :: text) = '{' :: '{' :: encode text := by
  simp [encode]

theorem encode_closed (body rest : List Char) :
    encode ((Part.closed body).print ++ rest) =
      ['{', '{'] ++ (encode body ++ (['}', '}'] ++ encode rest)) := by
  have hbody : encode (body ++ ('}' :: '}' :: rest)) = encode body ++ encode ('}' :: '}' :: rest) :=
    encode_append body (by simp)
  have hclose : encode ('}' :: '}' :: rest) = '}' :: '}' :: encode rest := by simp [encode]
  simp [Part.print, encode_braces, hbody, hclose]

open Cutter in
/-- The pieces of a printed list of parts, behind some literal text that is not complete. -/
theorem finish_outside_print {parts : List Part} (h : WellFormed parts) (text : List Char)
    (htext : text ≠ [] → ∀ other, parts.head? ≠ some (.literal other)) (done : List Piece) :
    ((outside text done).feedAll (encode (print parts))).finish =
      done.reverse ++ (Part.literal text).pieces ++ parts.flatMap Part.pieces := by
  induction parts generalizing text done with
  | nil =>
      have hflush := (outside text done).flush_encode text rfl
      have hrelease : (outside text done).release = outside text done := rfl
      rw [print_nil, encode_nil, feedAll_nil, finish, hrelease, hflush, List.reverse_append,
        Part.reverse_pieces]
      simp [outside, partOf]
  | cons part rest ih =>
      cases part with
      | literal other =>
          have hnil : text = [] := by
            by_contra hne
            exact htext hne other rfl
          subst hnil
          obtain ⟨hne, hsparse, hnext, hrest⟩ := h
          have hwrote := wrote_outside done hsparse
          cases rest with
          | nil =>
              have hfinish := finish_of_wrote rfl rfl hwrote
              rw [show print [Part.literal other] = other by simp [print, Part.print], hfinish]
              simp [outside, partOf]
          | cons next rest =>
              obtain ⟨hclear, hlast, hnotLiteral⟩ :
                  EndsClear (openers none other) ∧ other.getLast? ≠ some '\\' ∧
                    ∀ third, next ≠ .literal third := by
                cases next with
                | literal third => exact hnext.elim
                | closed body => exact ⟨hnext.1, hnext.2, by simp⟩
                | unclosed body => exact ⟨hnext.1, hnext.2, by simp⟩
              rw [hclear.getD_eq] at hwrote
              have hstate : (outside [] done).feedAll (encode other) = outside other done := by
                rw [hwrote.eq]
                simp [outside, release]
              rw [print_cons, Part.print, encode_append other fun h => absurd h hlast,
                feedAll_append, hstate,
                ih hrest other (fun _ third h => hnotLiteral third (by simpa using h)) done]
              simp
      | closed body =>
          obtain ⟨hsparse, hdepth, hclear, hrest⟩ := h
          have hwrote := wrote_opened ((Part.literal text).pieces ++ done) hsparse
          rw [hclear.getD_eq, hdepth] at hwrote
          rw [print_cons, encode_closed, feedAll_append, feedAll_open, feedAll_append,
            feedAll_append, feedAll_close hwrote, ih hrest [] (by simp)]
          simp
      | unclosed body =>
          obtain ⟨hsparse, rfl⟩ := h
          have hwrote := wrote_opened ((Part.literal text).pieces ++ done) hsparse
          have hfinish := finish_of_wrote rfl rfl hwrote
          have hencode : encode (print [Part.unclosed body]) = ['{', '{'] ++ encode body := by
            simp [print, Part.print, encode_braces]
          rw [hencode, feedAll_append, feedAll_open, hfinish]
          simp [opened, partOf, Part.pieces_unclosed]

/-- **Cutting a printed list of parts gives its pieces,** in order and with their exact texts; a
placeholder without a body makes none. -/
theorem cut_print {parts : List Part} (h : WellFormed parts) :
    Piece.cut (print parts) = parts.flatMap Part.pieces := by
  have hstart : ({} : Cutter) = Cutter.outside [] [] := rfl
  rw [Piece.cut, hstart, finish_outside_print h [] (by simp) []]
  simp

/-- Escaped braces, nested ones, single ones and texts that look like tokens: all come back. -/
theorem cut_print_of_braces :
    WellFormed [.literal "a\\\x7b\x7b\\\x7b".toList, .closed "n,\\d\x7b2\x7d".toList,
      .literal "\x7d&bsp;".toList, .unclosed "m\x7d \x7b".toList] ∧
    Piece.cut "a\\\x7b\x7b\\\x7b\x7b\x7bn,\\d\x7b2\x7d\x7d\x7d\x7d&bsp;\x7b\x7bm\x7d \x7b".toList =
      [.literal "a\\\x7b\x7b\\\x7b".toList, .placeholder "n,\\d\x7b2\x7d".toList,
        .literal "\x7d&bsp;".toList, .placeholder "m\x7d \x7b".toList] :=
  have h : WellFormed [.literal "a\\\x7b\x7b\\\x7b".toList, .closed "n,\\d\x7b2\x7d".toList,
      .literal "\x7d&bsp;".toList, .unclosed "m\x7d \x7b".toList] := by decide
  have cut := cut_print h
  ⟨h, cut⟩

/-- **A placeholder without a body is not given back.** -/
theorem not_cut_print_map :
    ¬∀ parts, WellFormed parts → Piece.cut (print parts) = parts.map Part.piece := by
  intro h
  have hparts : WellFormed [.closed []] := by decide
  exact absurd (h _ hparts) (by decide)

end ParamTemplate.Template
