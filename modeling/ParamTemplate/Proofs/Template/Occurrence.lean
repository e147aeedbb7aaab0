/-
**Searching and conforming.**

A template is looked for with one expression and compared with all of a text with another one.  Both
come from the same source, but they are accepted apart from each other.

What conforms to a template contains it.  Without assertions it does not matter for a match what is
around it, so that the texts that contain a template are those of which a part conforms to it, if no
line feed is needed to tie it to both ends.

A line feed may be needed, because for what is looked for no automaton is built if it is a list of
words, whatever else is written in it that never matches.  Tied to both ends it is too large then,
unless a line feed behind its last branch lets the branches share what they begin with.

Main definitions:

* `Template.IsLookFree` — no assertion is written in the expression of a template;
* `Template.wordTwice` — a list of words that needs a line feed.

Main results:

* `Template.occursIn_and_conforms` — **what a template finds in a text, and what conforms to it**;
* `Template.exists_word_lost` — a word that is found, while no part of the text conforms.
-/

import ParamTemplate.Proofs.Regex.Assertions
import ParamTemplate.Proofs.Template.Anchoring

set_option autoImplicit false

namespace ParamTemplate

/-! ### Parts of a text -/

namespace Regex.Expr

variable {text : List Char} {e : Expr} {i j : Nat}

/-- **Without assertions, a match is a match of all of a part of the text.** -/
theorem exists_infix_of_matches (free : e.isLookFree) (hi : i ≤ text.length)
    (h : e.Matches text i j) : ∃ part, part <:+: text ∧ e.Matches part 0 part.length := by
  obtain ⟨saves, hrun⟩ := h
  have hij : i ≤ j := hrun.le
  have hj : j ≤ text.length := hrun.le_length hi
  have length : ((text.drop i).take (j - i)).length = j - i := by
    rw [List.length_take, List.length_drop]
    omega
  refine ⟨(text.drop i).take (j - i),
    (List.take_prefix ..).isInfix.trans (List.drop_suffix ..).isInfix, ?_⟩
  have alike : Alike text ((text.drop i).take (j - i)) i 0 0 (j - i) := by
    intro k _ hk
    rw [Nat.zero_add, List.getElem?_take_of_lt hk, List.getElem?_drop]
  have run : e.Run text (i + 0) saves (i + (j - i)) := by
    rwa [Nat.add_zero, Nat.add_sub_cancel' hij]
  have moved : e.Matches ((text.drop i).take (j - i)) (0 + 0) (0 + (j - i)) :=
    Matches.move free ⟨saves, run⟩ alike
  rw [length]
  rwa [Nat.zero_add, Nat.zero_add] at moved

/-- **Without assertions, what matches all of a part of a text matches in the text.** -/
theorem exists_matches_of_infix (free : e.isLookFree) {part : List Char} (hpart : part <:+: text)
    (h : e.Matches part 0 part.length) : ∃ i j, i ≤ text.length ∧ e.Matches text i j := by
  obtain ⟨before, after, rfl⟩ := hpart
  have alike : Alike part (before ++ part ++ after) 0 before.length 0 part.length := by
    intro k _ hk
    rw [Nat.zero_add, List.append_assoc, List.getElem?_append_right (Nat.le_add_right ..),
      Nat.add_sub_cancel_left, List.getElem?_append_left hk]
  have moved : e.Matches (before ++ part ++ after) (before.length + 0)
      (before.length + part.length) :=
    Matches.move (a := 0) (i := 0) (j := part.length) free (by simpa using h) alike
  refine ⟨_, _, ?_, moved⟩
  simp only [List.length_append]
  omega

end Regex.Expr

namespace Template

open Regex Regex.Reader

/-- **Whether no assertion is written in the assembled expression.** -/
def IsLookFree (template : Template) : Prop :=
  ∃ p, Pattern.read template.source = .ok p ∧ p.isLookFree

variable {input text : List Char} {template : Template}

/-- What conforms to a template contains it. -/
theorem occursIn_of_conforms (h : compile input = .ok template)
    (hconforms : (template.parameters? text).isSome) : template.occursIn text := by
  obtain ⟨hsearch, hwhole, -⟩ := accepted_of_compile h
  obtain ⟨s, p, q, e, forms⟩ := exists_forms hsearch hwhole
  have hmatches := (isSome_parameters?_iff h forms.expr text).1 hconforms
  rw [occursIn_iff h]
  rcases forms.cases with rfl | ⟨-, -, -, rfl⟩
  · exact ⟨0, text.length, Nat.zero_le _, hmatches⟩
  · -- The line feed is behind the match.
    obtain ⟨flags, hmeaning⟩ := forms.meaning
    obtain ⟨flags', he⟩ := forms.inside
    rw [← forms.alone.close] at hmeaning
    obtain ⟨k, hk⟩ := Level.matches_of_lineFeed hmeaning he hmatches
    exact ⟨0, k, Nat.zero_le _, hk⟩

/-- The expression that is looked for has no assertion if none is written. -/
theorem IsLookFree.search (free : template.IsLookFree) (h : compile input = .ok template) :
    template.search.expr.isLookFree := by
  obtain ⟨p, hp, hfree⟩ := free
  obtain ⟨p', flags, hp', hmeaning⟩ := read_of_compile (accepted_of_compile h).1
  cases hp.symm.trans hp'
  exact Pattern.isLookFree_of_meaning p hfree hmeaning

/-- **What a template finds in a text, and what conforms to it.**  What conforms contains the
template; without assertions, and if no line feed is needed to tie it to both ends, a text contains
the template if and only if a part of it conforms. -/
theorem occursIn_and_conforms (h : compile input = .ok template) (text : List Char) :
    ((template.parameters? text).isSome → template.occursIn text) ∧
      (template.IsLookFree → template.FitsTied → (template.occursIn text ↔
        ∃ part, part <:+: text ∧ (template.parameters? part).isSome)) := by
  refine ⟨occursIn_of_conforms h, fun free hfits => ?_⟩
  have hfree := free.search h
  have conforms := isSome_parameters?_iff h (whole_eq_of_fitsTied h hfits)
  rw [occursIn_iff h]
  constructor
  · rintro ⟨i, j, hi, hmatches⟩
    obtain ⟨part, hpart, hmatches⟩ := Expr.exists_infix_of_matches hfree hi hmatches
    exact ⟨part, hpart, (conforms part).2 hmatches⟩
  · rintro ⟨part, hpart, hconforms⟩
    exact Expr.exists_matches_of_infix hfree hpart ((conforms part).1 hconforms)

/-- A letter occurs in a text, and a part of the text conforms to it. -/
theorem occursIn_and_conforms_of_letter : ∃ template,
    compile "{{n,a}}".toList = .ok template ∧ template.IsLookFree ∧
      ∃ part, part <:+: "xay".toList ∧ (template.parameters? part).isSome := by
  obtain ⟨template, h, ⟨p, hp, hfree⟩, hfits, hoccurs⟩ :
      ∃ template, compile "{{n,a}}".toList = .ok template ∧
        (∃ p ∈ (Pattern.read template.source).toOption, p.isLookFree) ∧
        (Regex.compile (anchored template.source)).toOption.isSome ∧
        template.occursIn "xay".toList :=
    exists_eq_ok (by decide +kernel)
  have free : template.IsLookFree := ⟨p, eq_ok_of_toOption hp, hfree⟩
  exact ⟨template, h, free,
    ((occursIn_and_conforms h "xay".toList).2 free (ne_tooLarge_of_isSome hfits)).1 hoccurs⟩

/-! ### A list of words -/

/-- A choice between a letter and what never matches but is large, twice. -/
def wordTwice : List Char :=
  "(?:a|[b&&c]a\x7b200000\x7d)x|(?:a|[b&&c]a\x7b200000\x7d)".toList

/-- What both branches begin with. -/
def word : Expr :=
  .alt (.text ['a'])
    (.cat (.set true .empty) (.repetition 200000 (some 200000) true (.text ['a'])))

theorem matches_word_iff {text : List Char} {i j : Nat} :
    word.Matches text i j ↔ j = i + 1 ∧ ['a'] <+: text.drop i := by
  constructor
  · rintro ⟨saves, ⟨-, rfl, h⟩ | ⟨_, _, _, ⟨-, -, c, -, hc⟩, -⟩⟩
    · exact ⟨rfl, h⟩
    · cases hc
  · rintro ⟨rfl, h⟩
    exact ⟨[], .inl ⟨rfl, rfl, h⟩⟩

/-- **A word is found, while no part of the text conforms.**  What is looked for is a list of words;
tied to both ends it is too large without a line feed, and the line feed is one more character to
match. -/
theorem exists_word_lost : ∃ template, compile wordTwice = .ok template ∧ template.IsLookFree ∧
    template.occursIn ['a'] ∧
      ¬∃ part, part <:+: ['a'] ∧ (template.parameters? part).isSome := by
  obtain ⟨template, h, ⟨p, hp, hfree⟩, hsearch, hwhole⟩ :
      ∃ template, compile wordTwice = .ok template ∧
        (∃ p ∈ (Pattern.read template.source).toOption, p.isLookFree) ∧
        template.search.expr = .alt (.cat word (.text ['x'])) word ∧
        template.whole.expr =
          (Expr.cat word (.set false (.unions [.single 'x', .single '\n']))).tied :=
    exists_eq_ok (by decide +kernel)
  refine ⟨template, h, ⟨p, eq_ok_of_toOption hp, hfree⟩, ?_, ?_⟩
  · rw [occursIn_iff h, hsearch]
    exact ⟨0, 1, Nat.zero_le _,
      Expr.matches_alt.2 (.inr (matches_word_iff.2 ⟨rfl, List.prefix_rfl⟩))⟩
  · rintro ⟨part, hpart, hconforms⟩
    rw [isSome_parameters?_iff h hwhole] at hconforms
    -- Behind the word there is always a character.
    obtain ⟨k, hword, _, -, hend, -⟩ := Expr.matches_cat.1 hconforms
    obtain ⟨rfl, -⟩ := matches_word_iff.1 hword
    have short := hpart.length_le
    rw [hend] at short
    exact absurd short (by decide)

end Template

end ParamTemplate
