/-
**Colour changes nothing but colour.**

Explanations, evaluations, records and summaries are printed with styles.  Every style is switched
off again before the text is printed that is not in it, so each of them leaves no style on, and they
can be printed one after the other.  Without the escape sequences they are what is printed without
colour, unless the escape character is in what is printed itself: in a text, a name, a value or the
template.  Records escape it, and summaries have no room for it.

The expression of a template and its segments are made of the characters of the template and of
those of the default pattern, so that it is enough to look at the template.

Main definitions:

* `Report.Block` — what is printed at one time;
* `Report.Block.IsClear` — whether the escape character is in nothing that is printed.

Main results:

* `Template.mem_of_mem_body`, `Template.mem_of_mem_name` — segments are made of the characters of
  the template;
* `Report.Block.closes` — no block leaves a style on;
* `Report.Block.colour_leaves_no_trace` — **colour changes nothing but colour**.
-/

import ParamTemplate.Proofs.Template.Anchoring
import ParamTemplate.Proofs.Template.Counting
import ParamTemplate.Proofs.Template.Splitting
import ParamTemplate.Proofs.Text.Records
import ParamTemplate.Proofs.Text.Terminal
import ParamTemplate.Report

set_option autoImplicit false

namespace ParamTemplate

/-! ### What a template is made of -/

namespace Template

variable {input : List Char} {template : Template} {segment : Segment} {piece : Piece} {c : Char}

theorem text_of_compile (h : compile input = .ok template) : template.text = input := by
  unfold compile at h
  dsimp only at h
  split at h
  · cases h
  · unfold build at h
    dsimp only at h
    split at h
    · cases h
    · split at h
      · cases h
      · cases h
        rfl

/-- The characters of a part are written. -/
theorem Part.mem_print {part : Part} (h : c ∈ part.text) : c ∈ part.print := by
  cases part with
  | literal text => exact h
  | closed body => exact List.mem_cons_of_mem _ (List.mem_cons_of_mem _ (List.mem_append_left _ h))
  | unclosed body => exact List.mem_cons_of_mem _ (List.mem_cons_of_mem _ h)

open Cutter in
/-- **Pieces are made of the characters of the template.** -/
theorem mem_of_mem_cut (h : piece ∈ Piece.cut input) (hc : c ∈ piece.text) : c ∈ input := by
  have cut : Piece.cut input = (split input).flatMap Part.pieces := by
    have finished := finish_outside_print (wellFormed_split input) [] (by simp) []
    rw [print_split] at finished
    exact finished.trans (List.nil_append _)
  rw [cut] at h
  obtain ⟨part, hpart, hpiece⟩ := List.mem_flatMap.1 h
  have text : piece.text = part.text := by
    unfold Part.pieces at hpiece
    split at hpiece
    · cases hpiece
    · obtain rfl := List.mem_singleton.1 hpiece
      cases part <;> rfl
  rw [← print_split input]
  exact List.mem_flatMap.2 ⟨part, hpart, Part.mem_print (text ▸ hc)⟩

theorem exists_stemsFrom (h : compile input = .ok template)
    (hsegment : segment ∈ template.segments) :
    ∃ piece ∈ Piece.cut input, segment.StemsFrom piece := by
  obtain ⟨-, -, hsegments, -⟩ := accepted_of_compile h
  rw [hsegments] at hsegment
  obtain ⟨k, hk⟩ := List.mem_iff_getElem?.1 hsegment
  obtain ⟨piece, next, hpiece, rfl⟩ := Segment.getElem?_ofPiecesFrom hk
  exact ⟨piece, List.mem_of_getElem? hpiece, Segment.stemsFrom_ofPiece ..⟩

/-- **Names are made of the characters of the template.** -/
theorem mem_of_mem_name (h : compile input = .ok template) (hsegment : segment ∈ template.segments)
    {name : List Char} (hname : segment.name? = some name) (hc : c ∈ name) : c ∈ input := by
  obtain ⟨piece, hpiece, stems⟩ := exists_stemsFrom h hsegment
  refine mem_of_mem_cut hpiece ?_
  cases piece with
  | literal text => exact absurd (hname.symm.trans stems.1) (by simp)
  | placeholder body =>
      obtain ⟨name', hname', -, hbody⟩ := stems
      obtain rfl : name' = name := Option.some.inj (hname'.symm.trans hname)
      split at hbody
      · rw [Piece.text, hbody]
        exact List.mem_append_left _ hc
      · rw [Piece.text, hbody.1]
        exact hc

/-- **Expressions are made of the characters of the template** and those of the default pattern. -/
theorem mem_of_mem_body (h : compile input = .ok template) (hsegment : segment ∈ template.segments)
    (hc : c ∈ segment.body) : c ∈ input ∨ c ∈ defaultPattern := by
  obtain ⟨piece, hpiece, stems⟩ := exists_stemsFrom h hsegment
  cases piece with
  | literal text =>
      obtain ⟨-, -, rfl⟩ := stems
      exact .inl (mem_of_mem_cut hpiece hc)
  | placeholder body =>
      obtain ⟨name, -, -, hbody⟩ := stems
      split at hbody
      · refine .inl (mem_of_mem_cut hpiece ?_)
        rw [Piece.text, hbody]
        exact List.mem_append_right _ (List.mem_cons_of_mem _ hc)
      · rw [hbody.2] at hc
        exact .inr hc

end Template

/-! ### No escape character -/

/-- Digits are no escape characters. -/
theorem not_mem_toDigits {base n : Nat} (hbase : 1 < base) : '\x1b' ∉ Nat.toDigits base n := by
  induction n using Nat.strong_induction_on with
  | _ n ih =>
      intro hmem
      rcases Nat.lt_or_ge n base with hlt | hge
      · rw [Nat.toDigits_of_lt_base hlt] at hmem
        exact Nat.digitChar_ne _ (by decide) (List.mem_singleton.1 hmem).symm
      · rw [Nat.toDigits_of_base_le hbase hge] at hmem
        rcases List.mem_append.1 hmem with hmem | hmem
        · exact ih (n / base) (Nat.div_lt_self (by omega) hbase) hmem
        · exact Nat.digitChar_ne _ (by decide) (List.mem_singleton.1 hmem).symm

/-- Quoting brings in no escape character. -/
theorem Text.Quoted.not_mem_quote {text : List Char} (h : '\x1b' ∉ text) :
    '\x1b' ∉ Text.Quoted.quote text := by
  have inside : '\x1b' ∉ text.flatMap Text.Quoted.escape := by
    intro hmem
    obtain ⟨c, hc, hmem⟩ := List.mem_flatMap.1 hmem
    unfold Text.Quoted.escape at hmem
    iterate 6
      split at hmem
      · exact absurd hmem (by decide)
    split at hmem
    · exact h (List.mem_singleton.1 hmem ▸ hc)
    · simp [not_mem_toDigits] at hmem
  simp [quote, inside]

namespace Report

open Template (Evaluation Outcome Segment)
open Text (Styled Terminal)
open Text.Styled (raw styled IsClear Closes)

variable {template : Template} {segment : Segment} {evaluation : Evaluation}

theorem isClear_headingLine {heading gap : String} {content : List Char}
    (hheading : '\x1b' ∉ heading.toList) (hgap : '\x1b' ∉ gap.toList) (h : '\x1b' ∉ content) :
    (headingLine heading gap content).IsClear := by
  simp [headingLine, hheading, hgap, h]

theorem isClear_nested (groups : Nat) : (nested groups).IsClear := by
  unfold nested
  split
  · simp [Regex.decimal, not_mem_toDigits]
  · exact Styled.isClear_nil

theorem isClear_segmentLine {input : List Char} (compiled : Template.compile input = .ok template)
    (h : '\x1b' ∉ input) (hsegment : segment ∈ template.segments) :
    (segmentLine segment).IsClear := by
  have hbody : '\x1b' ∉ segment.body := fun hmem =>
    (Template.mem_of_mem_body compiled hsegment hmem).elim h (by decide)
  unfold segmentLine
  split
  next name index hkind =>
    have named : segment.name? = some name := by rw [Segment.name?, hkind]
    have hname : '\x1b' ∉ name := fun hmem =>
      h (Template.mem_of_mem_name compiled hsegment named hmem)
    simp [indexLabel, Regex.decimal, not_mem_toDigits, hname, hbody, isClear_nested]
  next =>
    simp [Text.Quoted.not_mem_quote hbody]

theorem not_mem_source {input : List Char} (compiled : Template.compile input = .ok template)
    (h : '\x1b' ∉ input) : '\x1b' ∉ template.source := by
  intro hmem
  obtain ⟨segment, hsegment, hc⟩ := List.mem_flatMap.1 hmem
  have hbody : '\x1b' ∉ segment.body := fun hmem =>
    (Template.mem_of_mem_body compiled hsegment hmem).elim h (by decide)
  unfold Segment.source at hc
  split at hc
  · simp [hbody] at hc
  · exact hbody hc

/-- **An explanation is clear** if the template is. -/
theorem isClear_explain {input : List Char} (compiled : Template.compile input = .ok template)
    (h : '\x1b' ∉ input) : (explain template).IsClear := by
  unfold explain
  simp only [Styled.isClear_append]
  refine ⟨⟨⟨?_, ?_⟩, ?_⟩, ?_⟩
  · exact isClear_headingLine (by decide) (by decide) (Template.text_of_compile compiled ▸ h)
  · exact isClear_headingLine (by decide) (by decide) (not_mem_source compiled h)
  · exact isClear_headingLine (by decide) (by decide) (not_mem_toDigits (by decide))
  · exact Styled.isClear_flatMap fun segment => isClear_segmentLine compiled h

/-- Whether the escape character is in no name and no value of an answer. -/
def IsClearOutcome : Outcome → Prop
  | .found _ => True
  | .value value? => ∀ value, value? = some (some value) → '\x1b' ∉ value
  | .params pairs? =>
      ∀ pairs, pairs? = some pairs → ∀ pair ∈ pairs, '\x1b' ∉ pair.1 ∧ '\x1b' ∉ pair.2

theorem isClear_markedLine {isMatch : Bool} {text : List Char} (h : '\x1b' ∉ text) :
    (markedLine isMatch text).IsClear := by
  cases isMatch <;> simp [markedLine, h]

theorem isClear_pairLine {pair : List Char × List Char} (hname : '\x1b' ∉ pair.1)
    (hvalue : '\x1b' ∉ pair.2) : (pairLine pair).IsClear := by
  simp [pairLine, hname, hvalue]

/-- **An evaluation is clear** if the text and the answer are. -/
theorem isClear_evaluation (htext : '\x1b' ∉ evaluation.text)
    (houtcome : IsClearOutcome evaluation.outcome) : (Report.evaluation evaluation).IsClear := by
  unfold Report.evaluation
  split
  next value? hvalue =>
    rw [hvalue] at houtcome
    cases value? with
    | none => simp
    | some value => simpa using houtcome value rfl
  next pairs hpairs =>
    rw [hpairs] at houtcome
    rw [Styled.isClear_append]
    refine ⟨isClear_markedLine htext, Styled.isClear_flatMap fun pair hpair => ?_⟩
    obtain ⟨hname, hvalue⟩ := houtcome pairs rfl pair hpair
    exact isClear_pairLine hname hvalue
  next => exact isClear_markedLine htext

/-- **A record is clear** in any case, as it escapes control characters. -/
theorem isClear_recordLine (evaluation : Evaluation) : (recordLine evaluation).IsClear := by
  have hrecord : '\x1b' ∉ (record evaluation).render := fun hmem =>
    Text.Json.not_control_of_mem_render _ hmem (by decide)
  simp [recordLine, hrecord]

theorem isClear_summary (matched total : Nat) : (summary matched total).IsClear := by
  simp [summary, Regex.decimal, not_mem_toDigits]

/-! ### No style is left on -/

theorem closes_nested (groups : Nat) : (nested groups).Closes := by
  unfold nested
  split <;> rfl

theorem closes_segmentLine (segment : Segment) : (segmentLine segment).Closes := by
  have inside := closes_nested (segment.groupCount?.getD 0)
  unfold Closes at inside ⊢
  unfold segmentLine
  split <;> simp [inside]

theorem closes_explain (template : Template) : (explain template).Closes := by
  have segments := Styled.closes_flatMap fun segment (_ : segment ∈ template.segments) =>
    closes_segmentLine segment
  unfold Closes at segments ⊢
  simp [explain, headingLine, segments]

theorem closes_markedLine (isMatch : Bool) (text : List Char) :
    (markedLine isMatch text).Closes := by
  cases isMatch <;> rfl

theorem closes_evaluation (evaluation : Evaluation) :
    (Report.evaluation evaluation).Closes := by
  unfold Report.evaluation
  split
  next => exact Styled.closes_raw _
  next pairs _ =>
    have values : Closes (pairs.flatMap pairLine) := Styled.closes_flatMap fun _ _ => rfl
    exact (closes_markedLine ..).append values
  next => exact closes_markedLine ..

/-! ### What is printed at one time -/

/-- **What is printed at one time.** -/
inductive Block where
  /-- The explanation of a template that was accepted. -/
  | explanation (template : Template) (input : List Char)
      (compiled : Template.compile input = .ok template)
  | evaluation (evaluation : Evaluation)
  | record (evaluation : Evaluation)
  | summary (matched total : Nat)

namespace Block

/-- A block with its styles. -/
def styled : Block → Styled
  | .explanation template _ _ => explain template
  | .evaluation e => Report.evaluation e
  | .record e => recordLine e
  | .summary matched total => Report.summary matched total

/-- A block as it is written, with or without colour. -/
def written (color : Bool) (block : Block) : List Char := block.styled.render color

/-- **Whether the escape character is in nothing that is printed:** not in the template, nor in the
text, the names and the values of an evaluation.  Records and summaries never hold it. -/
def IsClear : Block → Prop
  | .explanation template _ _ => '\x1b' ∉ template.text
  | .evaluation e => '\x1b' ∉ e.text ∧ IsClearOutcome e.outcome
  | .record _ | .summary _ _ => True

theorem isClear_of_isClear {block : Block} (h : block.IsClear) : block.styled.IsClear := by
  cases block with
  | explanation template input compiled =>
      exact isClear_explain compiled (Template.text_of_compile compiled ▸ h)
  | evaluation e => exact isClear_evaluation h.1 h.2
  | record e => exact isClear_recordLine e
  | summary matched total => exact isClear_summary matched total

/-- **No block leaves a style on.** -/
theorem closes (block : Block) : block.styled.Closes := by
  cases block with
  | explanation template input compiled => exact closes_explain template
  | evaluation e => exact closes_evaluation e
  | record e => exact Styled.closes_raw _
  | summary matched total => exact rfl

/-- **Colour changes nothing but colour.**  Without its escape sequences a block is what is written
without colour, if the escape character is not in what is printed itself, and a terminal on which no
style is on has none on behind it.  So it is with several blocks, one after the other: each of them
is shown as it is shown by itself. -/
theorem colour_leaves_no_trace {blocks : List Block} (clear : ∀ block ∈ blocks, block.IsClear) :
    (∀ block ∈ blocks, Terminal.visible (block.written true) = block.written false ∧
      ∀ t : Terminal, t.IsReset → (t.feedAll (block.written true)).IsReset) ∧
    Terminal.visible (blocks.flatMap (written true)) = blocks.flatMap (written false) ∧
    Terminal.display (blocks.flatMap (written true)) =
      blocks.flatMap (fun block => Terminal.display (block.written true)) ∧
    ∀ t : Terminal, t.IsReset → (t.feedAll (blocks.flatMap (written true))).IsReset := by
  have hclear : ∀ block ∈ blocks, block.styled.IsClear := fun block hblock =>
    isClear_of_isClear (clear block hblock)
  have hclosed : ∀ block ∈ blocks, block.styled.Closes := fun block _ => block.closes
  have together (color : Bool) :
      blocks.flatMap (written color) = Styled.render color (blocks.flatMap styled) :=
    List.flatMap_assoc.symm
  refine ⟨fun block hblock => ⟨?_, fun t reset => ?_⟩, ?_, ?_, fun t reset => ?_⟩
  · exact Terminal.visible_render (hclear block hblock) (hclosed block hblock)
  · exact Terminal.isReset_feedAll (hclear block hblock) (hclosed block hblock) reset
  · rw [together true, together false]
    exact Terminal.visible_render (Styled.isClear_flatMap hclear) (Styled.closes_flatMap hclosed)
  · exact Terminal.display_flatMap hclear hclosed
  · rw [together]
    exact Terminal.isReset_feedAll (Styled.isClear_flatMap hclear)
      (Styled.closes_flatMap hclosed) reset

/-- A template, a text with the value of a placeholder, and a summary. -/
theorem colour_leaves_no_trace_of_letters : ∃ template,
    ∃ compiled : Template.compile "a{{n}}".toList = .ok template,
      let blocks : List Block := [.explanation template _ compiled,
        .evaluation ⟨"ab".toList, .params (some [(['n'], ['b'])])⟩, .summary 1 1]
      (∀ block ∈ blocks, block.IsClear) ∧
        Terminal.visible (blocks.flatMap (written true)) = blocks.flatMap (written false) := by
  obtain ⟨template, compiled, -⟩ :
      ∃ template, Template.compile "a{{n}}".toList = .ok template ∧ True :=
    Regex.exists_eq_ok (by decide +kernel)
  have htext : '\x1b' ∉ template.text := Template.text_of_compile compiled ▸ by decide
  refine ⟨template, compiled, ?_⟩
  intro blocks
  have clear : ∀ block ∈ blocks, block.IsClear := by
    intro block hblock
    simp only [blocks, List.mem_cons, List.not_mem_nil, or_false] at hblock
    rcases hblock with rfl | rfl | rfl
    · exact htext
    · exact ⟨by decide, by simp [IsClearOutcome]⟩
    · trivial
  exact ⟨clear, (colour_leaves_no_trace clear).2.1⟩

end Block

end Report

end ParamTemplate
