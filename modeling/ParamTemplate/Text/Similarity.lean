/-
**How similar two words are.**

Characters of two words are paired if they are equal and not too far apart: each character of the
first word with the first free one of the second.  The similarity of the words is the mean of three
shares: of the first word that is paired, of the second word that is paired, and of the pairs that
stand in the same order in both.

Main definitions:

* `Text.paired` — the paired characters of two words, in the order of each;
* `Text.similarity` — how similar two words are, between 0 and 1;
* `Text.mostSimilar?` — the candidate that is most similar to a word.
-/

set_option autoImplicit false

namespace ParamTemplate.Text

/-- Take the first free character `c` from place `low` on and before place `high`; each character
comes with whether it is taken. -/
def takeFree? (c : Char) (low high : Nat) : List (Char × Bool) → Option (List (Char × Bool))
  | [] => none
  | (d, taken) :: rest =>
      if low = 0 && 0 < high && !taken && c == d then some ((d, true) :: rest)
      else (takeFree? c (low - 1) (high - 1) rest).map ((d, taken) :: ·)

/-- Pair the characters of a word from place `here` on with free ones that are at most `reach` away:
the paired characters, and what is free afterwards. -/
def pairFrom (reach here : Nat) :
    List Char → List (Char × Bool) → List Char × List (Char × Bool)
  | [], other => ([], other)
  | c :: rest, other =>
      match takeFree? c (here - reach) (here + reach + 1) other with
      | some other =>
          let (found, other) := pairFrom reach (here + 1) rest other
          (c :: found, other)
      | none => pairFrom reach (here + 1) rest other

/-- The paired characters of two words, in the order of each. -/
def paired (word other : List Char) : List Char × List Char :=
  let reach := Nat.max word.length other.length / 2 - 1
  let (found, marked) := pairFrom reach 0 word (other.map fun c => (c, false))
  (found, (marked.filter (·.2)).map (·.1))

/-- The number of places at which two words differ. -/
def differences (word other : List Char) : Nat := (word.zip other).countP fun pair => pair.1 != pair.2

/-- **How similar two words are.** -/
def similarity (word other : List Char) : Float :=
  let (first, second) := paired word other
  if first.isEmpty then if word.isEmpty && other.isEmpty then 1 else 0
  else
    let pairs := first.length
    let ordered := pairs - differences first second / 2
    let share (part whole : Nat) : Float := part.toFloat / whole.toFloat
    (share pairs word.length + share pairs other.length + share ordered pairs) / 3

/-- The candidate that is most similar to a word, if it is similar enough; of equals the first. -/
def mostSimilar? {α : Type} (name : α → List Char) (enough : Float) (word : List Char)
    (candidates : List α) : Option α :=
  let better (best : Option α × Float) (candidate : α) : Option α × Float :=
    let similarity := similarity word (name candidate)
    if best.2 < similarity then (some candidate, similarity) else best
  (candidates.foldl better (none, enough)).1

end ParamTemplate.Text
