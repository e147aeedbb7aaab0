/-
**Running a program over a text.**

All ways through the program are followed at once, one character of the text after the other.  A
thread is a place in the program with the places of the text that were remembered on the way to it.
Threads are kept in the order in which they are to be preferred, and of two threads at the same
place of the program only the preferred one is kept: both would go on alike.

Between two characters the threads first go on as far as they can without reading.  A thread that
accepts ends all threads after it; a thread before it may still accept later, and then that match is
the preferred one.  As long as nothing has been accepted, a new thread starts at every place of the
text, after all others.

Main definitions:

* `Regex.Program.settle` — the threads that wait for a character, and the first match;
* `Regex.Program.read?` — a waiting thread after a character;
* `Regex.Program.search` — the preferred match in a text.

Main statement:

* `Regex.count_mark_lt` — a place of the program is settled at most once, which ends the settling.
-/

import ParamTemplate.Regex.Program

set_option autoImplicit false

namespace ParamTemplate.Regex

/-- The places of a text that were remembered, by their numbers. -/
abbrev Slots := Array (Option Nat)

/-- A place in a program, with what was remembered on the way to it. -/
structure Thread where
  place : Nat
  slots : Slots

/-- What comes of settling threads. -/
structure Settled where
  /-- The threads that wait for a character, the preferred one first. -/
  waiting : List Thread
  /-- What the thread after them remembered, if it accepts. -/
  found : Option Slots

/-- Mark a place that was not marked: fewer are left. -/
theorem count_mark_lt {marks : Array Bool} {place : Nat} (h : place < marks.size)
    (hm : marks[place] = false) : (marks.set place true).count false < marks.count false := by
  have positive : 0 < marks.count false :=
    Array.count_pos_iff.2 (hm ▸ Array.getElem_mem h)
  have fewer : (marks.set place true).count false = marks.count false - 1 := by
    rw [Array.count_set h, hm]
    rfl
  omega

/-- **The threads that wait for a character,** and the first match.  `marks` tells which places of
the program have been settled; `settled` are the waiting threads found so far, in reverse order. -/
def Program.settle (program : Program) (here : Nat) (before after : Option Char)
    (marks : Array Bool) (settled threads : List Thread) : Settled :=
  match threads with
  | [] => { waiting := settled.reverse, found := none }
  | thread :: rest =>
      if h : thread.place < marks.size then
        if hm : marks[thread.place] = false then
          have := count_mark_lt h hm
          let marks := marks.set thread.place true
          let next := thread.place + 1
          match program.code[thread.place]? with
          | some (.char _) | some (.set _) =>
              program.settle here before after marks (thread :: settled) rest
          | some (.look look) =>
              if look.holds before after then
                program.settle here before after marks settled
                  ({ thread with place := next } :: rest)
              else program.settle here before after marks settled rest
          | some (.save slot) =>
              let slots := thread.slots.setIfInBounds slot (some here)
              program.settle here before after marks settled ({ place := next, slots } :: rest)
          | some (.fork first second) =>
              program.settle here before after marks settled
                ({ thread with place := first } :: { thread with place := second } :: rest)
          | some (.jump target) =>
              program.settle here before after marks settled
                ({ thread with place := target } :: rest)
          | some .accept => { waiting := settled.reverse, found := some thread.slots }
          | none => program.settle here before after marks settled rest
        else program.settle here before after marks settled rest
      else program.settle here before after marks settled rest
termination_by 2 * marks.count false + threads.length
decreasing_by
  all_goals simp only [List.length_cons]
  all_goals omega

/-- Whether a waiting instruction reads a character. -/
def Instr.reads (c : Char) : Instr → Bool
  | .char d => c == d
  | .set s => s.contains c
  | _ => false

/-- A thread after a character that it reads. -/
def Program.read? (program : Program) (c : Char) (thread : Thread) : Option Thread :=
  if (program.code[thread.place]?).any (·.reads c) then
    some { thread with place := thread.place + 1 }
  else none

/-- The preferred match when the text goes on with `text` at place `here`; `best` is the match so
far, which every thread is preferred to. -/
def Program.searchFrom (program : Program) (here : Nat) (before : Option Char)
    (threads : List Thread) (best : Option Slots) (text : List Char) : Option Slots :=
  let start : Thread := { place := 0, slots := Array.replicate program.slotCount none }
  let threads := if best.isSome then threads else threads ++ [start]
  let marks := Array.replicate program.code.size false
  let settled := program.settle here before text.head? marks [] threads
  let best := settled.found.or best
  match text with
  | [] => best
  | c :: rest =>
      let threads := settled.waiting.filterMap (program.read? c)
      if threads.isEmpty && best.isSome then best
      else program.searchFrom (here + 1) (some c) threads best rest

/-- **The preferred match in a text.** -/
def Program.search (program : Program) (text : List Char) : Option Slots :=
  program.searchFrom 0 none [] none text

end ParamTemplate.Regex
