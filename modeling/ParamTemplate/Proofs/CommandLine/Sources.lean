/-
**Where texts come from makes no difference.**

A file is read as a text and cut into lines; the standard input is cut into lines, and each line is
read as a text.  Both give the same texts, or none, since a cut at a line feed never falls inside a
character.  Texts that are given as arguments can as well be written as lines.

Main results:

* `CommandLine.streamTexts?_eq_fileTexts?` — the same bytes give the same texts;
* `CommandLine.sources_agree` — **what is read from a file, from the standard input and from
  arguments.**
-/

import ParamTemplate.Proofs.CommandLine.Outcome
import ParamTemplate.Proofs.Text.Lining

set_option autoImplicit false

namespace ParamTemplate.CommandLine

open Text (WrittenAs)

variable {data : List Nat} {texts : List (List Char)}

/-! ### The texts of bytes -/

theorem fileTexts?_eq_some_iff :
    fileTexts? data = some texts ↔ ∃ text, Utf8.encode text = data ∧ Text.lines text = texts := by
  simp only [fileTexts?, Option.map_eq_some_iff, Utf8.decode?_eq_some_iff]

theorem streamTexts?_eq_some_iff :
    streamTexts? data = some texts ↔ texts.map Utf8.encode = Text.linesBy 0x0A 0x0D data :=
  Text.mapM_decode?_eq_some_iff

/-- **The same bytes give the same texts,** read as a whole or line by line. -/
theorem streamTexts?_eq_fileTexts? (data : List Nat) : streamTexts? data = fileTexts? data := by
  refine Option.ext fun texts => ?_
  rw [streamTexts?_eq_some_iff, fileTexts?_eq_some_iff]
  constructor
  · intro hlines
    have htext : ∃ text, Utf8.encode text = data := by
      refine Text.exists_encode_eq fun line hline => ?_
      rw [← hlines] at hline
      obtain ⟨text, -, htext⟩ := List.mem_map.1 hline
      exact ⟨text, htext⟩
    obtain ⟨text, rfl⟩ := htext
    rw [Text.linesBy_encode] at hlines
    exact ⟨text, rfl, (List.map_inj_right fun _ _ => Utf8.encode_inj.1).1 hlines.symm⟩
  · rintro ⟨text, rfl, rfl⟩
    rw [Text.linesBy_encode]

/-- No texts are read if and only if the bytes are no text. -/
theorem fileTexts?_eq_none_iff : fileTexts? data = none ↔ ¬∃ text, Utf8.encode text = data := by
  rw [← Option.not_isSome_iff_eq_none, Option.isSome_iff_exists]
  simp only [fileTexts?_eq_some_iff]
  simp

/-- The texts that are read are lines, as many as the line feeds tell. -/
theorem lines_of_fileTexts? (h : fileTexts? data = some texts) :
    (∀ text ∈ texts, '\n' ∉ text) ∧ texts.length =
      data.count 0x0A + if data = [] ∨ data.getLast? = some 0x0A then 0 else 1 := by
  obtain ⟨text, rfl, rfl⟩ := fileTexts?_eq_some_iff.1 h
  refine ⟨fun line => Text.not_mem_of_mem_lines, ?_⟩
  rw [← Text.length_linesBy 0x0D, Text.linesBy_encode, List.length_map]

/-- Texts that are written as lines are the texts that are read. -/
theorem fileTexts?_encode {written : List Char}
    (h : ∀ text ∈ texts, '\n' ∉ text ∧ text.getLast? ≠ some '\r') (hwritten : WrittenAs texts written) :
    fileTexts? (Utf8.encode written) = some texts :=
  fileTexts?_eq_some_iff.2 ⟨written, rfl, Text.lines_of_writtenAs h hwritten⟩

/-! ### The texts of a run -/

variable {surroundings surroundings' : Surroundings} {path : List Char}

theorem toOption_readTexts_of_file (hfile : surroundings.fileAt path = .ok data) :
    (readTexts surroundings [] (some path)).toOption = fileTexts? data := by
  simp only [readTexts, List.isEmpty_nil, if_true, textsAt, hfile]
  cases fileTexts? data <;> rfl

theorem toOption_readTexts_of_stdin (hstdin : surroundings.stdin = data) :
    (readTexts surroundings [] none).toOption = fileTexts? data := by
  simp only [readTexts, List.isEmpty_nil, if_true, hstdin, streamTexts?_eq_fileTexts?]
  cases fileTexts? data <;> rfl

theorem readTexts_of_arguments (hne : texts ≠ []) (surroundings : Surroundings)
    (path? : Option (List Char)) : readTexts surroundings texts path? = .ok texts :=
  if_neg (by simpa using hne)

/-- **A run depends on its texts, not on where they come from.** -/
theorem runOptions_congr_texts (options : Options) {texts texts' : List (List Char)}
    {path? path?' : Option (List Char)} (hcolor : surroundings.color = surroundings'.color)
    (hread : (readTexts surroundings texts path?).toOption =
      (readTexts surroundings' texts' path?').toOption) :
    let result := runOptions { options with texts, input? := path? } surroundings
    let result' := runOptions { options with texts := texts', input? := path?' } surroundings'
    result.stdout = result'.stdout ∧ result.code = result'.code := by
  simp only [runOptions, attempt, Options.color, hcolor, Template.evaluateShared_eq_map]
  generalize readTexts surroundings texts path? = given at hread ⊢
  generalize readTexts surroundings' texts' path?' = given' at hread ⊢
  cases Template.compile options.template with
  | error error => exact ⟨rfl, rfl⟩
  | ok template =>
      cases options.explain with
      | true => exact ⟨rfl, rfl⟩
      | false =>
          cases given with
          | ok texts =>
              rw [Regex.eq_ok_of_toOption hread.symm]
              exact ⟨rfl, rfl⟩
          | error error =>
              cases given' with
              | ok texts => cases hread
              | error error' => exact ⟨rfl, rfl⟩

/-- **What is read from a file, from the standard input and from arguments.**  A file and the
standard input with the same bytes give the same texts, so that two runs that read them print the
same and end with the same code; they give none if and only if the bytes are no text.  No text that
is read holds a line feed; there is one for each line feed, and one for what is left behind the last
one.  Texts that are given as arguments can as well be written as lines, each ended by a line feed
or by a carriage return and a line feed. -/
theorem sources_agree (hfile : surroundings.fileAt path = .ok data)
    (hstdin : surroundings'.stdin = data) :
    (readTexts surroundings [] (some path)).toOption =
      (readTexts surroundings' [] none).toOption ∧
    ((readTexts surroundings [] (some path)).toOption = none ↔
      ¬∃ text, Utf8.encode text = data) ∧
    (∀ arguments arguments' (options : Options),
      read arguments = .ok { options with texts := [], input? := some path } →
      read arguments' = .ok { options with texts := [], input? := none } →
      surroundings.color = surroundings'.color →
        (run arguments surroundings).stdout = (run arguments' surroundings').stdout ∧
        (run arguments surroundings).code = (run arguments' surroundings').code) ∧
    (∀ texts, readTexts surroundings [] (some path) = .ok texts →
      (∀ text ∈ texts, '\n' ∉ text) ∧ texts.length =
        data.count 0x0A + if data = [] ∨ data.getLast? = some 0x0A then 0 else 1) ∧
    ∀ texts written, texts ≠ [] → (∀ text ∈ texts, '\n' ∉ text ∧ text.getLast? ≠ some '\r') →
      WrittenAs texts written → data = Utf8.encode written →
        ∀ elsewhere path?,
          readTexts surroundings [] (some path) = readTexts elsewhere texts path? := by
  have file := toOption_readTexts_of_file hfile
  have same := file.trans (toOption_readTexts_of_stdin hstdin).symm
  refine ⟨same, ?_, fun arguments arguments' options parsed parsed' hcolor => ?_,
    fun texts hread => ?_, fun texts written hne h hwritten hdata elsewhere path? => ?_⟩
  · rw [file, fileTexts?_eq_none_iff]
  · rw [run_of_read parsed, run_of_read parsed']
    exact runOptions_congr_texts options hcolor same
  · refine lines_of_fileTexts? ?_
    rw [← file, hread]
    rfl
  · rw [readTexts_of_arguments hne]
    refine Regex.eq_ok_of_toOption ?_
    rw [file, hdata, fileTexts?_encode h hwritten]

/-- A line with a carriage return and a line without an end are read from a file. -/
theorem sources_agree_of_lines :
    let data := Utf8.encode "a\r\né".toList
    let surroundings : Surroundings := { fileAt := fun _ => .ok data, stdin := [] }
    let surroundings' : Surroundings := { fileAt := fun _ => .error .missing, stdin := data }
    readTexts surroundings [] (some ['f']) = .ok [['a'], ['é']] ∧
    (run ["{{n}}".toList, "--input".toList, ['f']] surroundings).stdout =
      (run ["{{n}}".toList] surroundings').stdout := by
  intro data surroundings surroundings'
  obtain ⟨-, -, runs, -, lines⟩ :=
    sources_agree (show surroundings.fileAt ['f'] = .ok data from rfl)
      (show surroundings'.stdin = data from rfl)
  refine ⟨?_, ?_⟩
  · exact lines [['a'], ['é']] _ (by decide) (by decide)
      (.cons ['a'] .returnFeed (.last (by decide))) rfl surroundings none
  · obtain ⟨options, parsed, hoptions⟩ : ∃ options, read ["{{n}}".toList] = .ok options ∧
        options = { options with texts := [], input? := none } ∧
        read ["{{n}}".toList, "--input".toList, ['f']] =
          .ok { options with texts := [], input? := some ['f'] } :=
      Regex.exists_eq_ok (by decide +kernel)
    exact (runs _ _ options hoptions.2 (hoptions.1 ▸ parsed) rfl).1

end ParamTemplate.CommandLine
