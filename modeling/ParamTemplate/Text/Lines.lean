/-
**Lines of a text.**

A line is ended by a line feed, or by a carriage return and a line feed; the last line may do
without.  A carriage return that no line feed follows belongs to its line.  Data of any kind has
lines, as long as it is known what its line feeds and carriage returns are.

Main definitions:

* `Text.linesBy` — the lines of data with line feeds and carriage returns;
* `Text.lines` — the lines of a text;
* `Text.unlines` — lines, each ended by a line feed.

Main statements:

* `Text.linesBy_append` — a line that a line feed ends is the first one;
* `Text.not_mem_of_mem_lines` — no line holds a line feed.
-/

set_option autoImplicit false

namespace ParamTemplate.Text

variable {α : Type} [DecidableEq α]

/-- A line without the carriage return in front of its line feed; `chars` holds the line with the
last character first. -/
def endLine (ret : α) (chars : List α) : List α :=
  if chars.head? = some ret then chars.tail.reverse else chars.reverse

/-- The lines of what is left of some data; `chars` holds the line at hand, the last character
first. -/
def linesFrom (feed ret : α) (chars : List α) : List α → List (List α)
  | [] => if chars.isEmpty then [] else [chars.reverse]
  | c :: rest =>
      if c = feed then endLine ret chars :: linesFrom feed ret [] rest
      else linesFrom feed ret (c :: chars) rest

/-- **The lines of data with line feeds and carriage returns.** -/
def linesBy (feed ret : α) (data : List α) : List (List α) := linesFrom feed ret [] data

/-- **The lines of a text.** -/
def lines (text : List Char) : List (List Char) := linesBy '\n' '\r' text

/-- Lines, each ended by a line feed. -/
def unlines (texts : List (List Char)) : List Char := texts.flatMap (· ++ ['\n'])

@[simp] theorem linesBy_nil (feed ret : α) : linesBy feed ret [] = [] := rfl

@[simp] theorem lines_nil : lines [] = [] := rfl

theorem linesFrom_append {feed ret : α} {chars line rest : List α} (h : feed ∉ line) :
    linesFrom feed ret chars (line ++ feed :: rest) =
      endLine ret (line.reverse ++ chars) :: linesBy feed ret rest := by
  induction line generalizing chars with
  | nil => simp [linesFrom, linesBy]
  | cons c line ih =>
      have hc : c ≠ feed := fun hc => h (hc ▸ List.mem_cons_self ..)
      rw [List.cons_append, linesFrom, if_neg hc, ih fun hm => h (List.mem_cons_of_mem _ hm)]
      simp

/-- A line that ends in no carriage return keeps its characters. -/
theorem endLine_reverse {ret : α} {line : List α} (h : line.getLast? ≠ some ret) :
    endLine ret line.reverse = line := by
  rw [endLine, if_neg (by rwa [List.head?_reverse]), List.reverse_reverse]

/-- **A line that a line feed ends is the first one,** if it does not end in a carriage return. -/
theorem linesBy_append {feed ret : α} {line rest : List α} (h : feed ∉ line)
    (hr : line.getLast? ≠ some ret) :
    linesBy feed ret (line ++ feed :: rest) = line :: linesBy feed ret rest := by
  rw [linesBy, linesFrom_append h, List.append_nil, endLine_reverse hr]

theorem mem_of_mem_endLine {ret c : α} {chars : List α} (h : c ∈ endLine ret chars) :
    c ∈ chars := by
  rw [endLine] at h
  split at h
  · exact List.mem_of_mem_tail (List.mem_reverse.1 h)
  · exact List.mem_reverse.1 h

theorem not_mem_of_mem_linesFrom {feed ret : α} {chars data line : List α} (hc : feed ∉ chars)
    (h : line ∈ linesFrom feed ret chars data) : feed ∉ line := by
  induction data generalizing chars with
  | nil =>
      rw [linesFrom] at h
      split at h
      · cases h
      · obtain rfl := List.mem_singleton.1 h
        exact fun hm => hc (List.mem_reverse.1 hm)
  | cons c rest ih =>
      rw [linesFrom] at h
      split at h
      · rcases List.mem_cons.1 h with rfl | h
        · exact fun hm => hc (mem_of_mem_endLine hm)
        · exact ih List.not_mem_nil h
      · next hne =>
          refine ih ?_ h
          intro hm
          rcases List.mem_cons.1 hm with he | hm
          · exact hne he.symm
          · exact hc hm

/-- **No line holds a line feed.** -/
theorem not_mem_of_mem_lines {text line : List Char} (h : line ∈ lines text) : '\n' ∉ line :=
  not_mem_of_mem_linesFrom List.not_mem_nil h

end ParamTemplate.Text
