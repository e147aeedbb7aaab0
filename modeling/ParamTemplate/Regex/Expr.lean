/-
**Expressions by their meaning.**

Flags, escapes and brackets are gone: an expression is built from texts, sets of characters,
assertions, groups, repetitions, concatenations and choices.  Concatenations and choices have two
parts; longer ones lean to the right.

The functions that build expressions simplify as they go.  What a text means does not depend on it,
but three simplifications can be seen from outside: a repetition that never happens leaves no groups,
what matches only the empty text is repeated at most once, and what all branches of a choice begin
with is taken out of it, after which the branches are tried in a different order.

Main definitions:

* `Regex.Expr` — the expressions;
* `Regex.Expr.groupCount`, `Regex.Expr.isLookFree` — the number of groups, and whether there is no
  assertion;
* `Regex.Expr.minLength?`, `Regex.Expr.isZeroWidth` — what is known of the length of a match;
* `Regex.Expr.concat`, `Regex.Expr.choice`, `Regex.Expr.repeated`, `Regex.Expr.ofSet` — the
  functions that simplify.
-/

import ParamTemplate.Regex.Look

set_option autoImplicit false

namespace ParamTemplate.Regex

/-- An expression by its meaning. -/
inductive Expr where
  | empty
  | text (chars : List Char)
  /-- A character of a set.  A set of characters of ASCII, written where only these are known, is
  another expression than the same set written where all of Unicode is known. -/
  | set (ascii : Bool) (set : CharSet)
  | look (look : Look)
  | group (index : Nat) (body : Expr)
  | repetition (min : Nat) (max : Option Nat) (greedy : Bool) (body : Expr)
  | cat (left right : Expr)
  | alt (left right : Expr)
deriving DecidableEq

namespace Expr

/-! ### What is known of an expression -/

/-- The number of groups. -/
def groupCount : Expr → Nat
  | empty | text _ | set .. | look _ => 0
  | group _ body => body.groupCount + 1
  | repetition _ _ _ body => body.groupCount
  | cat left right | alt left right => left.groupCount + right.groupCount

/-- The least number of characters of a match; none if a part was found that never matches. -/
def minLength? : Expr → Option Nat
  | empty | look _ => some 0
  | text chars => some chars.length
  | set _ s => if s.isEmpty then none else some 1
  | group _ body => body.minLength?
  | repetition min _ _ body => body.minLength?.map fun n => min * n
  | cat left right =>
      match left.minLength?, right.minLength? with
      | some m, some n => some (m + n)
      | _, _ => none
  | alt left right =>
      match left.minLength?, right.minLength? with
      | some m, some n => some (Nat.min m n)
      | _, _ => none

/-- Whether every match is known to have at least one character. -/
def consumes (e : Expr) : Bool := e.minLength?.any (0 < ·)

/-- Whether every match is known to be empty. -/
def isZeroWidth : Expr → Bool
  | empty | look _ => true
  | text chars => chars.isEmpty
  | set .. => false
  | group _ body => body.isZeroWidth
  | repetition _ max _ body => max.isSome && body.isZeroWidth
  | cat left right | alt left right => left.isZeroWidth && right.isZeroWidth

/-- Whether there is no assertion in an expression. -/
def isLookFree : Expr → Bool
  | empty | text _ | set .. => true
  | look _ => false
  | group _ body | repetition _ _ _ body => body.isLookFree
  | cat left right | alt left right => left.isLookFree && right.isLookFree

/-- Whether every match is known to start at the start of the text. -/
def startsAtStart : Expr → Bool
  | empty | text _ | set .. => false
  | look k => k = .textStart
  | group _ body => body.startsAtStart
  | repetition min _ _ body => 0 < min && body.startsAtStart
  | cat left right => left.startsAtStart || (left.isZeroWidth && right.startsAtStart)
  | alt left right => left.startsAtStart && right.startsAtStart

/-- Whether every match is known to end at the end of the text. -/
def endsAtEnd : Expr → Bool
  | empty | text _ | set .. => false
  | look k => k = .textEnd
  | group _ body => body.endsAtEnd
  | repetition min _ _ body => 0 < min && body.endsAtEnd
  | cat left right => right.endsAtEnd || (right.isZeroWidth && left.endsAtEnd)
  | alt left right => left.endsAtEnd && right.endsAtEnd

/-! ### Parts -/

/-- The parts of a concatenation. -/
def factors : Expr → List Expr
  | empty => []
  | cat left right => left :: right.factors
  | e => [e]

/-- The branches of a choice. -/
def branches : Expr → List Expr
  | alt left right => left :: right.branches
  | e => [e]

/-- The expressions one after the other. -/
def chain : List Expr → Expr
  | [] => empty
  | [e] => e
  | e :: rest => cat e (chain rest)

/-- The expressions as branches, tried in order; without branches nothing matches. -/
def firstOf : List Expr → Expr
  | [] => set true .empty
  | [e] => e
  | e :: rest => alt e (firstOf rest)

/-! ### Building expressions -/

/-- The expression for one character of a set.  A set without characters is one of ASCII. -/
def ofSet (ascii : Bool) (s : CharSet) : Expr :=
  match s.single? with
  | some c => text [c]
  | none => set (ascii || s.isEmpty) s

/-- Put an expression in front of others, joining two texts. -/
def consFactor : Expr → List Expr → List Expr
  | text chars, text more :: rest => text (chars ++ more) :: rest
  | e, rest => e :: rest

/-- The expressions one after the other, with nested concatenations opened up and neighbouring texts
joined. -/
def concat (parts : List Expr) : Expr := chain ((parts.flatMap factors).foldr consFactor [])

/-- A repetition.  What matches only the empty text is repeated at most once, what is repeated zero
times is nothing, and what is repeated once is itself. -/
def repeated (min : Nat) (max : Option Nat) (greedy : Bool) (body : Expr) : Expr :=
  let (min, max) :=
    if body.isZeroWidth then (Nat.min min 1, some (Nat.min (max.getD 1) 1)) else (min, max)
  if max = some 0 then empty
  else if min = 1 && max = some 1 then body
  else repetition min max greedy body

/-- The character of an expression that is a text of one. -/
def char? : Expr → Option Char
  | text [c] => some c
  | _ => none

/-- The set of an expression that is one, and whether only ASCII is known there. -/
def set? : Expr → Option (Bool × CharSet)
  | set ascii s => some (ascii, s)
  | _ => none

/-- The set that all branches make together, if they are all single characters or all sets. -/
def mergedSet? (parts : List Expr) : Option CharSet :=
  ((parts.mapM char?).map fun chars => CharSet.unions (chars.map .single)).or
    ((parts.mapM set?).map fun sets => CharSet.unions (sets.map Prod.snd))

/-- The longest common beginning of two lists. -/
def commonPrefix : List Expr → List Expr → List Expr
  | d :: ds, e :: es => if d = e then d :: commonPrefix ds es else []
  | _, _ => []

/-- The beginning that all branches have in common, if each of them is a concatenation. -/
def commonFactors (parts : List Expr) : List Expr :=
  let lists := parts.map factors
  match lists with
  | [] => []
  | first :: rest => if lists.all (2 ≤ ·.length) then rest.foldl commonPrefix first else []

/-- A choice with at most `fuel` nested steps of taking out what the branches begin with. -/
def choiceWithin : Nat → List Expr → Expr
  | fuel, parts =>
      let parts := parts.flatMap branches
      if parts.length ≤ 1 then firstOf parts
      else
        match mergedSet? parts with
        | some s => ofSet false s
        | none =>
            match fuel, commonFactors parts with
            | fuel + 1, common@(_ :: _) =>
                let rests := parts.map fun e => concat (e.factors.drop common.length)
                concat (common ++ [choiceWithin fuel rests])
            | _, _ => firstOf parts

/-- The branches as a choice, with nested choices opened up; single characters and sets become one
set, and what all branches begin with is taken out. -/
def choice (parts : List Expr) : Expr :=
  choiceWithin (parts.flatMap factors).length parts

end Expr

end ParamTemplate.Regex
