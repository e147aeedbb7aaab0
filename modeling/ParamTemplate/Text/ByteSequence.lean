/-
**The byte sequences of sets of characters.**

The UTF-8 forms of an interval of characters are put together from products of ranges of bytes: one
range for each place.  An interval is cut where the number of bytes changes, and then where its forms
are no product.

Main definitions:

* `Utf8.byteSequences` — the byte sequences of an interval of characters, as sequences of ranges;
* `CharSet.byteSequences` — those of a set;
* `Utf8.groupByHead` — byte sequences put together by their first range.
-/

import ParamTemplate.Text.CharSet
import ParamTemplate.Text.Utf8

set_option autoImplicit false

namespace ParamTemplate

namespace Utf8

/-- Ranges of bytes, one for each place of a byte sequence. -/
abbrev ByteRanges := List (Nat × Nat)

/-! ### Cutting intervals -/

/-- Cut an interval in two after `cut`, if it goes on behind it. -/
def cutAfter (cut : Nat) (interval : Nat × Nat) : List (Nat × Nat) :=
  if interval.1 ≤ cut && cut < interval.2 then [(interval.1, cut), (cut + 1, interval.2)]
  else [interval]

/-- The parts of an interval in which all characters have as many bytes, surrogates left out. -/
def evenParts (interval : Nat × Nat) : List (Nat × Nat) :=
  let parts := [0x7F, 0x7FF, 0xD7FF, 0xDFFF, 0xFFFF].foldl
    (fun parts cut => parts.flatMap (cutAfter cut)) [interval]
  parts.filter fun part => part.2 < 0xD800 || 0xDFFF < part.1

/-- The first place, counted in bits from the right, at which an interval has to be cut so that its
byte sequences are a product of ranges, with the last code before the cut.  An interval of single
bytes is a range as it is. -/
def unevenCut? (interval : Nat × Nat) : Option Nat :=
  let (lo, hi) := interval
  if hi ≤ 0x7F then none
  else
    [64, 64 * 64, 64 * 64 * 64].findSome? fun unit =>
      if lo / unit = hi / unit then none
      else if lo % unit ≠ 0 then some (lo / unit * unit + (unit - 1))
      else if hi % unit ≠ unit - 1 then some (hi / unit * unit - 1)
      else none

/-- The byte sequences of an interval of characters with as many bytes, after at most `fuel` nested
cuts; two cuts for each of the three places are enough. -/
def productParts : Nat → Nat × Nat → List ByteRanges
  | 0, interval => [(bytes interval.1).zip (bytes interval.2)]
  | fuel + 1, interval =>
      match unevenCut? interval with
      | some cut =>
          productParts fuel (interval.1, cut) ++ productParts fuel (cut + 1, interval.2)
      | none => [(bytes interval.1).zip (bytes interval.2)]

/-- **The byte sequences of an interval of characters,** in increasing order. -/
def byteSequences (interval : Nat × Nat) : List ByteRanges :=
  (evenParts interval).flatMap (productParts 8)

/-! ### Putting sequences together -/

/-- Put a byte sequence in front of others that are grouped by their first range. -/
def consGroup (sequence : ByteRanges) (groups : List ((Nat × Nat) × List ByteRanges)) :
    List ((Nat × Nat) × List ByteRanges) :=
  match sequence, groups with
  | [], groups => groups
  | head :: tail, (key, tails) :: rest =>
      if head = key then (key, tail :: tails) :: rest else (head, [tail]) :: (key, tails) :: rest
  | head :: tail, [] => [(head, [tail])]

/-- Byte sequences grouped by their first range. -/
def groupByHead (sequences : List ByteRanges) : List ((Nat × Nat) × List ByteRanges) :=
  sequences.foldr consGroup []

end Utf8

/-- **The byte sequences of a set of characters.** -/
def CharSet.byteSequences (s : CharSet) : List Utf8.ByteRanges := s.ranges.flatMap Utf8.byteSequences

end ParamTemplate
