/-
**Decoding part by part.**

A template is encoded as a whole, but decoded in the parts that the cutter makes of it.  In general
a text cannot be decoded part by part: a token that is cut in two is a token no longer, and what is
left of it may make another one with what stands beside it.  No token has a brace in it, so beside a
brace neither can happen.

The cutter completes a part where a placeholder begins or ends and where the template ends.  The
invariant that carries this says of all that was read before the part at hand that it ends in a
brace, which is the second half of the last delimiter.  The first half of the next one is the brace
that is held back; so the part is cut out beside braces on both sides.

Main definitions:

* `Template.CleanCut` — a text is cut in two at one of its ends or beside a brace;
* `Template.CleanCuts` — so it is at each cut between several parts;
* `Template.Cutter.Flushed` — where the cutter completes what it reads.

Main results:

* `Template.CleanCut.decode_append` — both sides of a clean cut are decoded on their own;
* `Template.Cutter.Flushed.exists_cleanCuts` — the cutter makes clean cuts;
* `Template.decode_parts` — **parts that are cut cleanly are decoded one by one.**
-/

import ParamTemplate.Proofs.Template.Holding
import ParamTemplate.Template.Token

set_option autoImplicit false

namespace ParamTemplate.Template

variable {left right text token part : List Char} {parts : List (List Char)} {c : Char}

/-! ### Cuts -/

/-- Whether a character is a brace. -/
def isBrace (c : Char) : Bool := c = '{' || c = '}'

/-- **Whether a text is cut cleanly in two:** at one of its ends, or beside a brace, directly behind
it or directly before it. -/
def CleanCut (left right : List Char) : Prop :=
  left = [] ∨ right = [] ∨ left.getLast?.any isBrace ∨ right.head?.any isBrace

/-- **Whether a text is cut cleanly into parts,** wherever a part begins. -/
def CleanCuts (parts : List (List Char)) : Prop :=
  ∀ k < parts.length, CleanCut (parts.take k).flatten (parts.drop k).flatten

instance (left right : List Char) : Decidable (CleanCut left right) :=
  inferInstanceAs (Decidable (_ ∨ _ ∨ _ ∨ _))

instance (parts : List (List Char)) : Decidable (CleanCuts parts) :=
  inferInstanceAs (Decidable (∀ k < parts.length, _))

/-- What is in front does not matter for a cut further on. -/
theorem CleanCut.of_append (start : List Char) (h : CleanCut (start ++ left) right) :
    CleanCut left right := by
  cases hlast : left.getLast? with
  | none => exact .inl (List.getLast?_eq_none_iff.1 hlast)
  | some c =>
      rcases h with h | h | h | h
      · exact .inl (List.append_eq_nil_iff.1 h).2
      · exact .inr (.inl h)
      · rw [List.getLast?_append, hlast] at h
        exact .inr (.inr (.inl (hlast ▸ h)))
      · exact .inr (.inr (.inr h))

/-- The cut behind the first of several parts. -/
theorem CleanCuts.head (h : CleanCuts (part :: parts)) : CleanCut part parts.flatten := by
  cases parts with
  | nil => exact .inr (.inl rfl)
  | cons next parts => simpa using h 1 (by simp)

/-- The cuts behind the first one. -/
theorem CleanCuts.tail (h : CleanCuts (part :: parts)) : CleanCuts parts := fun k hk =>
  (h (k + 1) (Nat.succ_lt_succ hk)).of_append part

/-- A part with something before it and something behind it. -/
theorem cleanCuts_of_around (hleft : CleanCut left (part ++ right))
    (hright : CleanCut (left ++ part) right) : CleanCuts [left, part, right] := by
  intro k hk
  match k, hk with
  | 0, _ => exact .inl rfl
  | 1, _ => simpa using hleft
  | 2, _ => simpa using hright

/-! ### Tokens -/

theorem isBrace_of_mem_braceToken : ∀ c ∈ braceToken, isBrace c = false := by
  simp [braceToken, isBrace]

theorem isBrace_of_mem_ampersandToken : ∀ c ∈ ampersandToken, isBrace c = false := by
  simp [ampersandToken, isBrace]

/-- **A token that begins before a clean cut ends before it,** since there is no brace in it. -/
theorem CleanCut.prefix_left (h : CleanCut left right) (hne : left ≠ [])
    (htoken : ∀ c ∈ token, isBrace c = false) (hstarts : token <+: left ++ right) :
    token <+: left := by
  rcases Nat.le_total token.length left.length with hle | hle
  · exact List.prefix_of_prefix_length_le hstarts (List.prefix_append ..) hle
  -- Otherwise the token goes on up to the cut, and there is no brace before it.
  obtain ⟨more, rfl⟩ := List.prefix_of_prefix_length_le (List.prefix_append left right) hstarts hle
  obtain ⟨rest, rfl⟩ := (List.prefix_append_right_inj left).1 hstarts
  cases more with
  | nil => simp
  | cons d more =>
      have behind : isBrace d = false := htoken d (by simp)
      rcases h with h | h | h | h
      · exact absurd h hne
      · cases h
      · obtain ⟨c, hc, hbrace⟩ := (Option.any_eq_true ..).1 h
        have before := htoken c (List.mem_append_left _ (List.mem_of_getLast? hc))
        exact absurd (before.symm.trans hbrace) Bool.false_ne_true
      · exact absurd (behind.symm.trans h) Bool.false_ne_true

/-- **Both sides of a clean cut are decoded on their own.** -/
theorem CleanCut.decode_append (h : CleanCut left right) :
    decode (left ++ right) = decode left ++ decode right := by
  fun_induction decode left with
  | case1 => rfl
  | case2 rest ih =>
      change decode (braceToken ++ (rest ++ right)) = _
      rw [decode_braceToken, ih (h.of_append braceToken)]
      rfl
  | case3 rest ih =>
      change decode (ampersandToken ++ (rest ++ right)) = _
      rw [decode_ampersandToken, ih (h.of_append ampersandToken)]
      rfl
  | case4 c rest hbrace hampersand ih =>
      rw [List.cons_append, decode, ih (h.of_append [c]), List.cons_append]
      -- A token that begins here would have begun here before the cut, too.
      · rintro tail rfl htail
        have hstarts : braceToken <+: '&' :: rest ++ right :=
          ⟨tail, by rw [List.cons_append, htail]; rfl⟩
        obtain ⟨more, hmore⟩ := h.prefix_left (List.cons_ne_nil _ _)
          isBrace_of_mem_braceToken hstarts
        exact hbrace more rfl (List.cons.inj hmore).2.symm
      · rintro tail rfl htail
        have hstarts : ampersandToken <+: '&' :: rest ++ right :=
          ⟨tail, by rw [List.cons_append, htail]; rfl⟩
        obtain ⟨more, hmore⟩ := h.prefix_left (List.cons_ne_nil _ _)
          isBrace_of_mem_ampersandToken hstarts
        exact hampersand more rfl (List.cons.inj hmore).2.symm

/-- A token that is cut in two is a token no longer. -/
example : decode ("&bs".toList ++ "p;".toList) ≠ decode "&bs".toList ++ decode "p;".toList := by
  decide

/-- **Parts that are cut cleanly are decoded one by one.** -/
theorem CleanCuts.flatten_map_decode (h : CleanCuts parts) :
    (parts.map decode).flatten = decode parts.flatten := by
  induction parts with
  | nil => rfl
  | cons part parts ih =>
      rw [List.map_cons, List.flatten_cons, List.flatten_cons, h.head.decode_append, ih h.tail]

/-! ### The cuts of the cutter -/

namespace Cutter

/-- **Where the cutter completes what it reads** of a text.  The state is the one that is flushed;
`after` is what follows the part that is completed. -/
inductive Flushed (encoded : List Char) : (s : Cutter) → (after : List Char) → Prop
  /-- A placeholder begins or ends with a character.  The delimiter begins with the brace that was
  held back. -/
  | delimiter {read rest : List Char} {c : Char} (hread : read ++ c :: rest = encoded)
      (hdelimiter : ((feedAll {} read).feed c).inside ≠ (feedAll {} read).inside) :
      Flushed encoded { feedAll {} read with held := false } ((feedAll {} read).brace :: c :: rest)
  /-- The text ends. -/
  | finish : Flushed encoded (feedAll {} encoded).release []

variable {s t : Cutter}

theorem isBrace_brace (s : Cutter) : isBrace s.brace := by
  unfold brace
  split <;> rfl

/-- **What a character does to the part at hand:** it joins it, or it completes a delimiter, behind
which a part begins. -/
theorem Step.released_eq (step : Step s c t) :
    (t.inside = s.inside ∧ t.released = c :: s.released) ∨
      (s.held = true ∧ c = s.brace ∧ t.released = []) := by
  cases step with
  | hold hc hheld hdepth => exact .inl ⟨rfl, by simp [released, hheld, hc, brace]⟩
  | delimit hc hheld hdepth => exact .inr ⟨hheld, hc, rfl⟩
  | close hinside hc hheld hdepth => exact .inl ⟨rfl, by simp [released, hheld]⟩
  | nest hinside hc => exact .inl ⟨rfl, rfl⟩
  | text hc hnested => exact .inl ⟨rfl, rfl⟩

/-- **What was read before the part at hand** ends in a brace, if there is anything. -/
theorem exists_before (read : List Char) : ∃ before,
    read = before ++ (feedAll {} read).released.reverse ∧
      (before = [] ∨ before.getLast?.any isBrace) := by
  induction read using List.reverseRecOn with
  | nil => exact ⟨[], rfl, .inl rfl⟩
  | append_singleton read c ih =>
      obtain ⟨before, hread, hbefore⟩ := ih
      rw [feedAll_append, feedAll_cons, feedAll_nil]
      rcases ((sound_feedAll read).step c).released_eq with ⟨-, hreleased⟩ | ⟨-, hc, hreleased⟩
      · refine ⟨before, ?_, hbefore⟩
        rw [hreleased, List.reverse_cons, ← List.append_assoc, ← hread]
      · refine ⟨read ++ [c], by rw [hreleased]; simp, .inr ?_⟩
        rw [List.getLast?_concat, hc]
        exact isBrace_brace _

/-- **The cutter makes clean cuts.** -/
theorem Flushed.exists_cleanCuts {encoded after : List Char} (h : Flushed encoded s after) :
    ∃ before, [before, s.buffer.reverse, after].flatten = encoded ∧
      CleanCuts [before, s.buffer.reverse, after] := by
  cases h with
  | @delimiter read rest c hread hdelimiter =>
      obtain ⟨before, hbefore, hlast⟩ := exists_before read
      rcases ((sound_feedAll read).step c).released_eq with ⟨hinside, -⟩ | ⟨hheld, -, -⟩
      · exact absurd hinside hdelimiter
      · -- The part ends before the brace that is held back.
        rw [released, if_pos hheld] at hbefore
        refine ⟨before, ?_, cleanCuts_of_around (hlast.imp_right fun h => .inr (.inl h)) ?_⟩
        · rw [← hread]
          conv => rhs; rw [hbefore]
          simp
        · exact .inr (.inr (.inr (isBrace_brace _)))
  | finish =>
      obtain ⟨before, hbefore, hlast⟩ := exists_before encoded
      rw [release_eq]
      refine ⟨before, by simpa using hbefore.symm, cleanCuts_of_around ?_ (.inr (.inl rfl))⟩
      exact hlast.imp_right fun h => .inr (.inl h)

end Cutter

/-! ### Parts of a template -/

/-- **An encoded template is decoded part by part if it is cut cleanly,** and no part becomes
nothing.  In particular this is so for the part that is completed whenever the cutter flushes. -/
theorem decode_parts (text : List Char) :
    (∀ parts, parts.flatten = encode text → CleanCuts parts →
      (parts.map decode).flatten = text ∧ ∀ part ∈ parts, part ≠ [] → decode part ≠ []) ∧
    ∀ s after, Cutter.Flushed (encode text) s after → ∃ before,
      [before, s.buffer.reverse, after].flatten = encode text ∧
      CleanCuts [before, s.buffer.reverse, after] ∧
      decode before ++ decode s.buffer.reverse ++ decode after = text ∧
      (s.buffer ≠ [] → decode s.buffer.reverse ≠ []) := by
  have whole : ∀ parts, parts.flatten = encode text → CleanCuts parts →
      (parts.map decode).flatten = text := by
    intro parts hparts hcuts
    rw [hcuts.flatten_map_decode, hparts, decode_encode]
  refine ⟨fun parts hparts hcuts => ⟨whole parts hparts hcuts, fun _ _ => decode_ne_nil⟩,
    fun s after hflushed => ?_⟩
  obtain ⟨before, hbefore, hcuts⟩ := hflushed.exists_cleanCuts
  refine ⟨before, hbefore, hcuts, ?_, fun hne => decode_ne_nil (by simpa using hne)⟩
  simpa using whole _ hbefore hcuts

/-- A template with an ampersand, an escaped brace and what looks like a token, cut beside braces,
and the part before its placeholder. -/
theorem decode_parts_of_tokens :
    let text := "a&\\\x7b\x7b\x7bn,&bsp;\x7d\x7d".toList
    let parts := ["a&bsp;&000;".toList, "\x7b".toList, [], "\x7bn,&bsp;bsp;".toList,
      "\x7d\x7d".toList]
    let flushed : Cutter := { buffer := "a&bsp;&000;".toList.reverse }
    let after := "\x7b\x7bn,&bsp;bsp;\x7d\x7d".toList
    (parts.flatten = encode text ∧ CleanCuts parts ∧ (parts.map decode).flatten = text) ∧
      Cutter.Flushed (encode text) flushed after ∧
      ∃ before, decode before ++ decode flushed.buffer.reverse ++ decode after = text := by
  intro text parts flushed after
  have hparts : parts.flatten = encode text := by decide
  have hcuts : CleanCuts parts := by decide
  have hread : "a&bsp;&000;\x7b".toList ++ '{' :: "n,&bsp;bsp;\x7d\x7d".toList = encode text := by
    decide
  have hflushed : Cutter.Flushed (encode text) flushed after := .delimiter hread (by decide)
  obtain ⟨before, -, -, hwhole, -⟩ := (decode_parts text).2 flushed after hflushed
  exact ⟨⟨hparts, hcuts, ((decode_parts text).1 parts hparts hcuts).1⟩, hflushed, before, hwhole⟩

end ParamTemplate.Template
