/-
**Expressions that are lists of words.**

An expression without groups and assertions may match nothing but a short list of words.  These are
then looked for as they are, and no automaton is built.  Whether an expression is such a list is
found out by collecting what its matches begin with.  The list is given up where it becomes too long;
words that become too long are cut, and only their beginnings are known from then on.  In the end a
list that promises to be found faster may take its place.

Main definitions:

* `Regex.Word` — a word that matches begin with, and whether it is all of them;
* `Regex.Words` — a list of words, unless there are too many;
* `Regex.Expr.words` — what the matches of an expression begin with;
* `Regex.Words.chosen` — the list that is looked for;
* `Regex.Expr.isWordlist` — whether an expression is looked for as a list of words.
-/

import ParamTemplate.Regex.Expr
import ParamTemplate.Text.Utf8

set_option autoImplicit false

namespace ParamTemplate.Regex

/-- A word that matches begin with, as bytes; it is whole if they end behind it. -/
structure Word where
  bytes : List Nat
  whole : Bool := true
deriving DecidableEq

/-- The beginning of a word, of so many bytes. -/
def Word.cut (length : Nat) (word : Word) : Word :=
  if word.bytes.length ≤ length then word else ⟨word.bytes.take length, false⟩

/-- Words that matches begin with, in the order in which they are preferred; none if there are too
many of them. -/
abbrev Words := Option (List Word)

namespace Words

/-- The most words of a list. -/
def mostWords : Nat := 250

/-- The greatest length of a word. -/
def mostBytes : Nat := 100

/-- The most copies of a part that are looked at. -/
def mostCopies : Nat := 10

/-- The most characters of a set that are taken as words. -/
def mostMembers : Nat := 10

/-- The word without bytes. -/
def nothing : Words := some [{ bytes := [] }]

/-- Whether all words are whole. -/
def areWhole (words : Words) : Bool := words.any (·.all (·.whole))

/-- Whether no word is whole. -/
def areOpen (words : Words) : Bool := words.all (·.all (!·.whole))

/-- The words as beginnings of longer ones. -/
def opened (words : Words) : Words := words.map (·.map fun word => { word with whole := false })

/-- The beginnings of the words. -/
def cut (length : Nat) (words : Words) : Words := words.map (·.map (Word.cut length))

/-- Put a word in front of others, if it is not the next one.  Of two equal ones a whole one is known
no longer to be whole if the other is not. -/
def consWord (word : Word) : List Word → List Word
  | next :: rest =>
      if word.bytes = next.bytes then ⟨next.bytes, word.whole && next.whole⟩ :: rest
      else word :: next :: rest
  | [] => [word]

/-- Of equal neighbours, keep one. -/
def merged (words : List Word) : List Word := words.foldr consWord []

/-- **The words of one list or the other.**  Too long a list is tried with short beginnings. -/
def union (first second : Words) : Words :=
  let fit (first second : List Word) : Bool := first.length + second.length ≤ mostWords
  match first, second with
  | some first, some second =>
      if fit first second then some (merged (first ++ second))
      else
        let first := merged (first.map (Word.cut 4))
        let second := merged (second.map (Word.cut 4))
        if fit first second then some (merged (first ++ second)) else none
  | _, _ => none

/-- **Each whole word of the first list with each word of the second one behind it.** -/
def cross (first second : Words) : Words :=
  match first with
  | none => none
  | some first =>
      let second := second.filter fun second => first.length * second.length ≤ mostWords
      let crossed : Words := match second with
        | some second => some (merged (first.flatMap fun word =>
            if word.whole then second.map fun more => ⟨word.bytes ++ more.bytes, more.whole⟩
            else [word]))
        | none => if first.any (·.bytes.isEmpty) then none else opened (some first)
      crossed.cut mostBytes

/-- The words of the first list with those of a part behind them, if a whole one is left. -/
def extend (words part : Words) : Words := if words.areOpen then words else words.cross part

/-- The characters of a set, each as a word. -/
def ofSet (s : CharSet) : Words :=
  let count := s.ranges.foldl (fun count range => count + (range.2 + 1 - range.1)) 0
  if count ≤ mostMembers then
    some (s.ranges.flatMap fun range =>
      (List.range' range.1 (range.2 + 1 - range.1)).map fun code => { bytes := Utf8.bytes code })
  else none

/-- The words of a part that is repeated. -/
def repeated (min : Nat) (max : Option Nat) (greedy : Bool) (part : Words) : Words :=
  if min = 0 then
    let part := if max = some 1 then part else part.opened
    if greedy then part.union nothing else nothing.union part
  else
    let copies := (List.replicate (Nat.min min mostCopies) part).foldl extend nothing
    if max = some min && min ≤ mostCopies then copies else copies.opened

/-- What words are those of: an expression alone, a part of a concatenation with the words of what is
before it, or a branch of a choice with those of the branches before it. -/
inductive Part where
  | alone
  | factor (before : Words)
  | branch (before : Words)

/-- The words up to the end of a part. -/
def Part.close (words : Words) : Part → Words
  | alone => words
  | factor before => before.extend words
  | branch before => before.union words

end Words

/-- **What the matches of an expression begin with,** together with what is before it. -/
def Expr.wordsAs (part : Words.Part) : Expr → Words
  | empty | look _ => part.close .nothing
  | text chars => part.close (Words.cut Words.mostBytes (some [{ bytes := Utf8.encode chars }]))
  | set _ s => part.close (.ofSet s)
  | group _ body => part.close (body.wordsAs .alone)
  | repetition min max greedy body => part.close (.repeated min max greedy (body.wordsAs .alone))
  | cat left right =>
      match part with
      | .factor before => right.wordsAs (.factor (before.extend (left.wordsAs .alone)))
      | part => part.close (right.wordsAs (.factor (Words.nothing.extend (left.wordsAs .alone))))
  | alt left right =>
      match part with
      | .branch before => right.wordsAs (.branch (before.union (left.wordsAs .alone)))
      | part => part.close (right.wordsAs (.branch (Words.union (some []) (left.wordsAs .alone))))

/-- **What the matches of an expression begin with.** -/
def Expr.words (e : Expr) : Words := e.wordsAs .alone

/-! ### The list that is looked for -/

/-- How common the bytes below 0xC0 are in texts, from rare to common; the others are as common as
can be. -/
def commonness : List Nat := [
    55, 52, 51, 50, 49, 48, 47, 46, 45, 103, 242, 66, 67, 229, 44, 43,
    42, 41, 40, 39, 38, 37, 36, 35, 34, 33, 56, 32, 31, 30, 29, 28,
    255, 148, 164, 149, 136, 160, 155, 173, 221, 222, 134, 122, 232, 202, 215, 224,
    208, 220, 204, 187, 183, 179, 177, 168, 178, 200, 226, 195, 154, 184, 174, 126,
    120, 191, 157, 194, 170, 189, 162, 161, 150, 193, 142, 137, 171, 176, 185, 167,
    186, 112, 175, 192, 188, 156, 140, 143, 123, 133, 128, 147, 138, 146, 114, 223,
    151, 249, 216, 238, 236, 253, 227, 218, 230, 247, 135, 180, 241, 233, 246, 244,
    231, 139, 245, 243, 251, 235, 201, 196, 240, 214, 152, 182, 205, 181, 127, 27,
    212, 211, 210, 213, 228, 197, 169, 159, 131, 172, 105, 80, 98, 96, 97, 81,
    207, 145, 116, 115, 144, 130, 153, 121, 107, 132, 109, 110, 124, 111, 82, 108,
    118, 141, 113, 129, 119, 125, 165, 117, 92, 106, 83, 72, 99, 93, 65, 79,
    166, 237, 163, 199, 190, 225, 209, 203, 198, 217, 219, 206, 234, 248, 158, 239]

/-- How common a byte is in texts. -/
def rank (byte : Nat) : Nat := commonness[byte]?.getD 255

/-- Whether a word is found nearly everywhere. -/
def Word.isCommon (word : Word) : Bool :=
  match word.bytes with
  | [] => true
  | [byte] => 250 ≤ rank byte
  | _ => false

namespace Words

/-- The words without those that have a word that is preferred to them as their beginning. -/
def minimized (words : List Word) : List Word :=
  words.foldl (fun kept word =>
    if kept.any (·.bytes.isPrefixOf word.bytes) then kept else kept ++ [word]) []

/-- What two lists of bytes have in common at their beginning. -/
def commonBytes : List Nat → List Nat → List Nat
  | a :: as, b :: bs => if a = b then a :: commonBytes as bs else []
  | _, _ => []

/-- What all words begin with. -/
def beginning (words : List Word) : List Nat :=
  match words with
  | [] => []
  | word :: rest => rest.foldl (fun bytes word => commonBytes bytes word.bytes) word.bytes

/-- Shorter beginnings, one length after the other, as long as there are more words than the number
beside it. -/
def shortened : List (Nat × Nat) → List Word → List Word
  | [], words => words
  | (length, enough) :: rest, words =>
      if words.length ≤ enough then words
      else shortened rest (minimized (words.map (Word.cut length)))

/-- The words, or a list of shorter ones that promises to be found faster.  Whole words stay if the
shorter ones are found nearly everywhere, or if they are too short or too many. -/
def promising (words : List Word) : Words :=
  let shorter := shortened [(5, 10), (4, 10), (3, 64), (2, 64), (1, 10)] words
  let isPoor := shorter.any Word.isCommon
  if words.all (·.whole) then
    if isPoor || shorter.isEmpty || shorter.any (·.bytes.length ≤ 2) || 64 < shorter.length then
      some words
    else some shorter
  else if isPoor then none
  else some shorter

/-- **The list that is looked for.**  What all words begin with may take their place: a rare byte, or
some bytes that are long enough. -/
def chosen (words : Words) : Words :=
  words.bind fun all =>
    if all.any (·.bytes.isEmpty) then none
    else
      let words := minimized all
      let first := beginning words
      let isFast := words.all (·.whole) && words.length ≤ 16
      if 1 < all.length && 1 ≤ first.length && first.length ≤ 3 && first.head?.any (rank · < 200) then
        some (merged (words.map (Word.cut 1)))
      else if 4 < first.length || (1 < first.length && !isFast) then
        promising (merged (words.map (Word.cut first.length)))
      else promising words

end Words

namespace Expr

/-- Whether an expression is a choice between very many texts. -/
def isLongChoice (e : Expr) : Bool :=
  let branches := e.branches
  3000 ≤ branches.length && branches.all fun
    | .text _ => true
    | _ => false

/-- **Whether an expression is looked for as a list of words:** it has neither groups nor assertions,
and is a short list of words or a very long choice between texts. -/
def isWordlist (e : Expr) : Bool :=
  e.groupCount = 0 && e.isLookFree &&
    (e.isLongChoice || (e.words.chosen.areWhole && e.words.chosen.any (!·.isEmpty)))

end Expr

end ParamTemplate.Regex
