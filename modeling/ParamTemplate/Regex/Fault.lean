/-
**What can be wrong with an expression.**

A complaint says what is wrong and where; two kinds of fault also point to an earlier place, which
the faulty one repeats.  The wording of every fault is fixed in one function.

Main definitions:

* `Regex.Fault` — the causes for which an expression is refused, before its size is looked at;
* `Regex.Fault.message` — the wording of a cause;
* `Regex.Complaint` — a cause with its place.
-/

import ParamTemplate.Regex.Position

set_option autoImplicit false

namespace ParamTemplate.Regex

/-- The deepest nesting of groups, repetitions, sequences, choices and brackets. -/
def nestLimit : Nat := 250

/-- Why an expression is refused. -/
inductive Fault where
  -- brackets
  | bracketEscapeInvalid
  | bracketRangeInvalid
  | bracketRangeLiteral
  | bracketUnclosed
  -- escapes
  | hexEmpty
  | hexInvalid
  | hexDigitInvalid
  | escapeUnfinished
  | escapeUnrecognized
  | backreference
  | propertyEscape
  | boundaryUnclosed
  | boundaryUnrecognized
  | boundaryUnfinished
  -- flags
  | flagDanglingNegation
  | flagDuplicate
  | flagRepeatedNegation
  | flagUnfinished
  | flagUnrecognized
  -- groups
  | groupNameDuplicate
  | groupNameEmpty
  | groupNameInvalid
  | groupNameUnfinished
  | groupUnclosed
  | groupUnopened
  | lookAround
  | nestLimitExceeded
  -- repetitions
  | countInvalid
  | countRangeInvalid
  | countMissing
  | countUnclosed
  | operandMissing
  -- meaning
  | unicodeNotAllowed
  | invalidUtf8
  | propertyNotFound
  | propertyValueNotFound
deriving DecidableEq, Repr

/-- The wording of a fault. -/
def Fault.message : Fault → String
  | bracketEscapeInvalid => "invalid escape sequence found in character class"
  | bracketRangeInvalid => "invalid character class range, the start must be <= the end"
  | bracketRangeLiteral => "invalid range boundary, must be a literal"
  | bracketUnclosed => "unclosed character class"
  | hexEmpty => "hexadecimal literal empty"
  | hexInvalid => "hexadecimal literal is not a Unicode scalar value"
  | hexDigitInvalid => "invalid hexadecimal digit"
  | escapeUnfinished => "incomplete escape sequence, reached end of pattern prematurely"
  | escapeUnrecognized => "unrecognized escape sequence"
  | backreference => "backreferences are not supported"
  | propertyEscape => "invalid Unicode character class"
  | boundaryUnclosed =>
      "special word boundary assertion is either unclosed or contains an invalid character"
  | boundaryUnrecognized =>
      "unrecognized special word boundary assertion, valid choices are: " ++
        "start, end, start-half or end-half"
  | boundaryUnfinished =>
      "found either the beginning of a special word boundary or a bounded " ++
        "repetition on a \\b with an opening brace, but no closing brace"
  | flagDanglingNegation => "dangling flag negation operator"
  | flagDuplicate => "duplicate flag"
  | flagRepeatedNegation => "flag negation operator repeated"
  | flagUnfinished => "expected flag but got end of regex"
  | flagUnrecognized => "unrecognized flag"
  | groupNameDuplicate => "duplicate capture group name"
  | groupNameEmpty => "empty capture group name"
  | groupNameInvalid => "invalid capture group character"
  | groupNameUnfinished => "unclosed capture group name"
  | groupUnclosed => "unclosed group"
  | groupUnopened => "unopened group"
  | lookAround => "look-around, including look-ahead and look-behind, is not supported"
  | nestLimitExceeded =>
      "exceed the maximum number of nested parentheses/brackets (" ++ toString nestLimit ++ ")"
  | countInvalid => "decimal literal invalid"
  | countRangeInvalid => "invalid repetition count range, the start must be <= the end"
  | countMissing => "repetition quantifier expects a valid decimal"
  | countUnclosed => "unclosed counted repetition"
  | operandMissing => "repetition operator missing expression"
  | unicodeNotAllowed => "Unicode not allowed here"
  | invalidUtf8 => "pattern can match invalid UTF-8"
  | propertyNotFound => "Unicode property not found"
  | propertyValueNotFound => "Unicode property value not found"

/-- A fault at a place, with the earlier place that it repeats, if it repeats one. -/
structure Complaint where
  fault : Fault
  span : Span
  earlier : Option Span := none
deriving DecidableEq, Repr

end ParamTemplate.Regex
