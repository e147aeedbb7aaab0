/-
**The size of an expression.**

An expression is refused if the automaton for it would be too large.  The automaton reads bytes; it
takes up 32 bytes for each state, 8 more for each range of bytes that leads out of a state of its own
and 4 more for each branch of a choice.  Copies count: a repetition with a lower bound has its body
that many times.  Two automata are built, one for each direction of reading, state by state, and
neither may grow beyond the limit.

A set of characters beyond ASCII becomes an automaton of its own.  Forwards equal ends of the byte
sequences are shared, backwards equal beginnings are.  For that the states are remembered by what
leads out of them, each at a place that is computed from it.  There are not many places, and a state
that comes to the place of another one drives it out.  So what such a set takes up depends on how
many states there are before it.  A choice between texts becomes a tree in which equal beginnings are
shared.

Main definitions:

* `Regex.Footprint` — what an automaton takes up;
* `Regex.Draft` — an automaton for a set, in the making, with the states that are remembered;
* `Regex.Load` — what something adds to an automaton;
* `Regex.Expr.load` — what an expression adds, in a direction;
* `Regex.Expr.isTooLarge` — whether an expression is refused for its size.

Main statements:

* `Regex.Footprint.extend_bind_extend` — two additions are one;
* `Regex.Load.run_andThen` — what is put together is added one after the other.
-/

import ParamTemplate.Regex.Wordlist
import ParamTemplate.Text.ByteSequence

set_option autoImplicit false

namespace ParamTemplate.Regex

/-- The largest size, in bytes. -/
def sizeLimit : Nat := 10485760

/-! ### What an automaton takes up -/

/-- **What an automaton takes up:** its states, the ranges of bytes that lead out of states of their
own, and the branches of choices. -/
@[ext]
structure Footprint where
  states : Nat := 0
  ranges : Nat := 0
  branches : Nat := 0

namespace Footprint

/-- The size in bytes. -/
def size (f : Footprint) : Nat := 32 * f.states + 8 * f.ranges + 4 * f.branches

instance : Add Footprint where
  add f g := ⟨f.states + g.states, f.ranges + g.ranges, f.branches + g.branches⟩

theorem add_assoc (f g h : Footprint) : f + g + h = f + (g + h) :=
  Footprint.ext (Nat.add_assoc ..) (Nat.add_assoc ..) (Nat.add_assoc ..)

theorem add_comm (f g : Footprint) : f + g = g + f :=
  Footprint.ext (Nat.add_comm ..) (Nat.add_comm ..) (Nat.add_comm ..)

theorem size_add (f g : Footprint) : (f + g).size = f.size + g.size := by
  have states : (f + g).states = f.states + g.states := rfl
  have ranges : (f + g).ranges = f.ranges + g.ranges := rfl
  have branches : (f + g).branches = f.branches + g.branches := rfl
  simp only [size, states, ranges, branches]
  omega

/-- The same several times. -/
def times (n : Nat) (f : Footprint) : Footprint := ⟨n * f.states, n * f.ranges, n * f.branches⟩

/-- **Add something, unless it becomes too large.** -/
def extend (f g : Footprint) : Option Footprint :=
  if (f + g).size ≤ sizeLimit then some (f + g) else none

/-- **Two additions are one.** -/
theorem extend_bind_extend (f g h : Footprint) :
    (f.extend g).bind (·.extend h) = f.extend (g + h) := by
  unfold extend
  rw [← add_assoc]
  split
  · rfl
  next large =>
    rw [if_neg]
    · rfl
    · rw [size_add]
      omega

end Footprint

/-! ### Automata for sets -/

/-- One more number for a hash, by the rule of Fowler, Noll and Vo. -/
def mix (hash : UInt64) (number : Nat) : UInt64 := (hash ^^^ number.toUInt64) * 1099511628211

/-- The place for a state, of so many, from the numbers that say what leads out of it. -/
def placeOf (places : Nat) (key : List Nat) : Nat :=
  (key.foldl mix 14695981039346656037).toNat % places

/-- **States that are remembered,** as a search tree of places: at each of them what leads out of a
state, and the state. -/
inductive Memory where
  | nil
  | node (left : Memory) (place : Nat) (key : List Nat) (state : Nat) (right : Memory)

namespace Memory

/-- What is remembered at a place. -/
def find? (place : Nat) : Memory → Option (List Nat × Nat)
  | nil => none
  | node left there key state right =>
      if place < there then left.find? place
      else if there < place then right.find? place
      else some (key, state)

/-- Remember a state at a place, and no other one there. -/
def insert (place : Nat) (key : List Nat) (state : Nat) : Memory → Memory
  | nil => node nil place key state nil
  | node left there key' state' right =>
      if place < there then node (left.insert place key state) there key' state' right
      else if there < place then node left there key' state' (right.insert place key state)
      else node left place key state right

theorem find?_insert (place other : Nat) (key : List Nat) (state : Nat) (memory : Memory) :
    (memory.insert place key state).find? other =
      if other = place then some (key, state) else memory.find? other := by
  induction memory with
  | nil =>
      simp only [insert, find?]
      grind
  | node left there key' state' right ihl ihr =>
      simp only [insert]
      split
      · simp only [find?, ihl]
        grind
      · split
        · simp only [find?, ihr]
          grind
        · simp only [find?]
          grind

end Memory

/-- **An automaton for a set, in the making.** -/
structure Draft where
  memory : Memory := .nil
  footprint : Footprint

/-- The state out of which leads what a key says: a state that is remembered, or a new one with so
many ranges. -/
def Draft.state (places : Nat) (key : List Nat) (ranges : Nat) (draft : Draft) : Nat × Draft :=
  let place := placeOf places key
  let fresh := (draft.footprint.states, {
    memory := draft.memory.insert place key draft.footprint.states
    footprint := draft.footprint + { states := 1, ranges } })
  match draft.memory.find? place with
  | some (key', state) => if key' = key then (state, draft) else fresh
  | none => fresh

/-- Forwards, the state from which byte sequences are read down to a depth, so that `stop` is
reached behind them.  A state is remembered by its ranges and where each of them leads. -/
def Draft.sharing (stop : Nat) : Nat → List Utf8.ByteRanges → Draft → Nat × Draft
  | 0, _, draft => (stop, draft)
  | depth + 1, sequences, draft =>
      match Utf8.groupByHead sequences with
      | [] => (stop, draft)
      | groups =>
          let (key, draft) := groups.foldl
            (fun (key, draft) group =>
              let (next, draft) := sharing stop depth group.2 draft
              (key ++ [group.1.1, group.1.2, next], draft)) ([], draft)
          draft.state 10000 key groups.length

/-- Backwards, the states of a byte sequence, of which the first one leads to `stop`.  A state is
remembered by its range and where that leads. -/
def Draft.branching (stop : Nat) (sequence : Utf8.ByteRanges) (draft : Draft) : Nat × Draft :=
  sequence.foldl
    (fun (next, draft) range => draft.state 1000 [next, range.1, range.2] 0) (stop, draft)

/-- What there is when the automaton for a set beyond ASCII has been added. -/
def Footprint.withSet (forward : Bool) (s : CharSet) (f : Footprint) : Footprint :=
  if forward then
    let draft : Draft := { footprint := f + { states := 1 } }
    (draft.sharing f.states 4 s.byteSequences).2.footprint
  else
    let draft : Draft := { footprint := f + { states := 2, branches := s.byteSequences.length } }
    (s.byteSequences.foldl
      (fun draft sequence => (draft.branching (f.states + 1) sequence).2) draft).footprint

/-! ### Automata for choices between texts -/

/-- What is left of some texts at a place of their tree, cut at those that end there. -/
def cutAtEnds : List (List Nat) → List (List (List Nat))
  | [] => [[]]
  | [] :: rest => [] :: cutAtEnds rest
  | text :: rest =>
      match cutAtEnds rest with
      | [] => [[text]]
      | part :: parts => (text :: part) :: parts

/-- Of empty parts at the beginning, keep one. -/
def dropEmptyStarts : List (List (List Nat)) → List (List (List Nat))
  | [] :: [] :: parts => dropEmptyStarts ([] :: parts)
  | parts => parts

/-- What the tree of some texts takes up, given as bytes, down to a depth.  A place where a text ends
between others, or where more than one part goes on, branches. -/
def textTree : Nat → List (List Nat) → Footprint
  | 0, _ => {}
  | depth + 1, texts =>
      let parts := dropEmptyStarts (cutAtEnds texts)
      let longer := parts.filter fun part => !part.isEmpty
      let exits := longer.length + (parts.length - 1)
      let partTree := fun (part : List (List Nat)) =>
        let heads := (part.filterMap List.head?).eraseDups
        heads.foldl
          (fun f head => f + textTree depth ((part.filter (·.head? = some head)).map List.tail))
          { states := 1, ranges := if heads.length = 1 then 0 else heads.length }
      if longer.isEmpty then {}
      else
        longer.foldl (fun f part => f + partTree part)
          (if exits = 1 then {} else { states := 1, branches := exits })

/-- What the automaton for a choice between texts takes up, given as bytes. -/
def textsFootprint (texts : List (List Nat)) : Footprint :=
  { states := 1 } + textTree ((texts.map List.length).foldl Nat.max 0) texts

/-! ### What is added to an automaton -/

/-- **What something adds to an automaton:** always the same, or what depends on the states before
it. -/
inductive Load where
  | fixed (footprint : Footprint)
  | placed (extend : Footprint → Option Footprint)

namespace Load

/-- Add it to an automaton, unless that becomes too large. -/
def run : Load → Footprint → Option Footprint
  | fixed g, f => f.extend g
  | placed extend, f => extend f

/-- One behind the other. -/
def andThen : Load → Load → Load
  | fixed g, fixed h => fixed (g + h)
  | first, second => placed fun f => (first.run f).bind second.run

/-- **What is put together is added one after the other.** -/
theorem run_andThen (first second : Load) (f : Footprint) :
    (first.andThen second).run f = (first.run f).bind second.run := by
  match first, second with
  | fixed g, fixed h => exact (f.extend_bind_extend g h).symm
  | fixed _, placed _ | placed _, fixed _ | placed _, placed _ => rfl

/-- A step so many times, or until it fails. -/
def steps (step : Footprint → Option Footprint) : Nat → Footprint → Option Footprint
  | 0, f => some f
  | n + 1, f =>
      match step f with
      | some f => steps step n f
      | none => none

/-- So many copies, one behind the other. -/
def copies (n : Nat) : Load → Load
  | fixed g => fixed (g.times n)
  | placed extend => placed (steps extend n)

/-- What a repetition adds, whose body adds `once`.  What may be repeated without end is wrapped once
more if it may be empty. -/
def repetition (min : Nat) (max : Option Nat) (consumes : Bool) (once : Load) : Load :=
  match min, max with
  | 0, some 1 => ((fixed { states := 1 }).andThen once).andThen (fixed { states := 1, branches := 2 })
  | 0, none =>
      if consumes then (fixed { states := 1, branches := 2 }).andThen once
      else once.andThen (fixed { states := 3, branches := 4 })
  | n, none => (once.copies n).andThen (fixed { states := 1, branches := 2 })
  | n, some m =>
      if n = m then once.copies n
      else
        let least := if n = 0 then fixed { states := 1 } else once.copies n
        let more := (fixed { states := 1, branches := 2 }).andThen once
        (least.andThen (fixed { states := 1 })).andThen (more.copies (m - n))

end Load

/-- What a set adds to an automaton. -/
def Load.ofSet (forward : Bool) (s : CharSet) : Load :=
  if s.isAscii then fixed { states := 2, ranges := s.ranges.length }
  else placed fun f => (f.withSet forward s).extend {}

/-! ### Automata for expressions -/

/-- Where an expression stands: alone, or at the end of the second or of a later branch of a
choice. -/
inductive Stand where
  | alone
  | second
  | later

/-- Where the branches behind one stand. -/
def Stand.next : Stand → Stand
  | alone => second
  | second | later => later

/-- What an expression adds together with the end of its branch. -/
def Load.closed (load : Load) : Stand → Load
  | .alone => load
  | .second => load.andThen (fixed { states := 2, branches := 2 })
  | .later => load.andThen (fixed { branches := 1 })

namespace Expr

/-- The text of an expression that is one, as bytes in the order in which they are read. -/
def bytes? (forward : Bool) : Expr → Option (List Nat)
  | text chars =>
      let bytes := Utf8.encode chars
      some (if forward then bytes else bytes.reverse)
  | _ => none

/-- **What an expression adds to an automaton,** in a direction.  Groups leave states only forwards;
backwards, what stands last is added first. -/
def load (forward : Bool) (stand : Stand) : Expr → Load
  | empty | look _ => (Load.fixed { states := 1 }).closed stand
  | text chars => (Load.fixed { states := (Utf8.encode chars).length }).closed stand
  | set _ s => (Load.ofSet forward s).closed stand
  | group _ body =>
      let inner := body.load forward .alone
      let mark := Load.fixed { states := 1 }
      (if forward then (mark.andThen inner).andThen mark else inner).closed stand
  | repetition min max _ body =>
      (Load.repetition min max body.consumes (body.load forward .alone)).closed stand
  | cat left right =>
      let left := left.load forward .alone
      let right := right.load forward .alone
      (if forward then left.andThen right else right.andThen left).closed stand
  | alt left right =>
      let texts? := match stand with
        | .alone => (left :: right.branches).mapM (bytes? forward)
        | _ => none
      match texts? with
      | some texts => .fixed (textsFootprint texts)
      | none =>
          ((left.load forward .alone).closed stand).andThen (right.load forward stand.next)

/-- The automaton for an expression.  Besides the expression there are the states that look for a
start, unless the place of the start is known, and those that mark the match. -/
def automaton? (forward : Bool) (e : Expr) : Option Footprint :=
  let known := if forward then e.startsAtStart else e.endsAtEnd
  let start := Load.fixed
    (if known then { states := 1 } else { states := 3, ranges := 1, branches := 2 })
  let marked := if forward then
      ((Load.fixed { states := 1 }).andThen (e.load forward .alone)).andThen
        (.fixed { states := 2 })
    else (e.load forward .alone).andThen (.fixed { states := 1 })
  (start.andThen marked).run {}

/-- **Whether an expression is refused for its size.**  For a list of words no automaton is built. -/
def isTooLarge (e : Expr) : Bool :=
  ((e.automaton? true).isNone || (e.automaton? false).isNone) && !e.isWordlist

end Expr

end ParamTemplate.Regex
