/-
**Groups get their numbers in the order in which they are opened.**

Whatever a text does to the groups comes down to moves, and a move that opens a group with a number
opens it behind all groups there are and gives it the next number.  So the places of the groups of
an expression increase with their numbers, which are the first ones.

The names that are taken are followed in the same way: they are those of the groups that were
opened.

The level outside of all groups is followed in the same way, too: it starts where the text starts,
and blanks are ignored at it only after a flag setting that stands there.

Main definitions:

* `Regex.Level.gather` — what the items of a level have, in reading order;
* `Regex.Outline.marks` — where the groups of a state were opened, with their numbers;
* `Regex.Outline.groupNames` — the groups of a state, with their names.

Main results:

* `Regex.Outline.Numbered.moves` — **the groups of a state are numbered in the order of their
  places**, and moves keep it so;
* `Regex.Outline.Named.moves` — **the names that are taken are those of the groups**, and moves keep
  it so;
* `Regex.Outline.Based.moves` — **blanks are ignored outside of all groups only after a setting that
  says so**, and moves keep it so.
-/

import ParamTemplate.Proofs.Regex.Directives
import ParamTemplate.Proofs.Regex.Reader.Moves

set_option autoImplicit false

namespace ParamTemplate.Regex

open Relation (ReflTransGen)

/-! ### What a level has -/

section

variable {α : Type} {g : Pattern → List α}

/-- Whether what an expression has is what its parts have, one after the other. -/
structure Gathers (g : Pattern → List α) : Prop where
  empty : ∀ span, g (.empty span) = []
  sequence : ∀ span items, g (.sequence span items) = items.flatMap g
  choice : ∀ span branches, g (.choice span branches) = branches.flatMap g

theorem gathers_groupMarks : Gathers Pattern.groupMarks where
  empty _ := rfl
  sequence _ items := Pattern.allGroupMarks_eq_flatMap items
  choice _ branches := Pattern.allGroupMarks_eq_flatMap branches

theorem gathers_groupNames : Gathers Pattern.groupNames where
  empty _ := rfl
  sequence _ items := Pattern.allGroupNames_eq_flatMap items
  choice _ branches := Pattern.allGroupNames_eq_flatMap branches

theorem gathers_directives : Gathers Pattern.directives where
  empty _ := rfl
  sequence _ items := Pattern.allDirectives_eq_flatMap items
  choice _ branches := Pattern.allDirectives_eq_flatMap branches

/-- What the items of a sequence have, in reading order. -/
def Row.gather (g : Pattern → List α) (row : Row) : List α := row.items.reverse.flatMap g

/-- **What the items of a level have,** in reading order. -/
def Level.gather (g : Pattern → List α) (level : Level) : List α :=
  level.rows.reverse.flatMap (Row.gather g) ++ level.items.reverse.flatMap g

theorem Row.gather_close (hg : Gathers g) (row : Row) : g row.close = row.gather g := by
  obtain ⟨span, items⟩ := row
  match items with
  | [] => exact hg.empty span
  | [item] => simp [close, gather]
  | item :: item' :: items => exact hg.sequence ..

/-- An expression has what its level had. -/
theorem Level.gather_close (hg : Gathers g) (level : Level) (stop : Position) :
    g (level.close stop) = level.gather g := by
  obtain ⟨start, items, rows⟩ := level
  cases rows with
  | nil => exact Row.gather_close hg ⟨⟨start, stop⟩, items⟩
  | cons row rows =>
      simp only [close, hg.choice, List.reverse_cons, List.map_append, List.map_cons, List.map_nil,
        List.flatMap_append, List.flatMap_map, Row.gather_close hg, gather, List.flatMap_cons,
        List.flatMap_nil, List.append_nil]
      rfl

@[simp] theorem Level.gather_push (level : Level) (item : Pattern) :
    (level.push item).gather g = level.gather g ++ g item := by
  simp [gather, push, List.flatMap_append, List.append_assoc]

@[simp] theorem Level.gather_bar (level : Level) (stop next : Position) :
    (level.bar stop next).gather g = level.gather g := by
  simp [gather, bar, row, Row.gather, List.flatMap_append]

@[simp] theorem Level.gather_opened (start : Position) : (opened start).gather g = [] := rfl

theorem Level.gather_of_items {level : Level} {item : Pattern} {items : List Pattern}
    (h : level.items = item :: items) :
    level.gather g = { level with items }.gather g ++ g item := by
  simp [gather, h, List.flatMap_append, List.append_assoc]

end

/-! ### Groups -/

/-- The groups that were opened up to the beginning of a group, with that group. -/
def OpenGroup.marks (group : OpenGroup) : List (Position × Nat) :=
  group.outer.gather Pattern.groupMarks ++ group.kind.marks group.span.start

/-- **Where the groups of a state were opened, with their numbers.** -/
def Outline.marks (o : Outline) : List (Position × Nat) :=
  o.stack.reverse.flatMap OpenGroup.marks ++
    (o.level.gather Pattern.groupMarks ++ o.held.elim [] Pattern.groupMarks)

theorem Pattern.groupMarks_of_isLeaf {item : Pattern} (h : item.isLeaf) : item.groupMarks = [] := by
  cases item with
  | repetition | group | choice | sequence => cases h
  | _ => rfl

/-- **A move opens no group, or one behind all others,** which gets the next number. -/
theorem Move.marks {o o' : Outline} (h : Move o o') :
    (o'.marks = o.marks ∧ o'.groups = o.groups ∧ o.front ≤ o'.front) ∨
      (o'.marks = o.marks ++ [(o.front, o.groups + 1)] ∧ o'.groups = o.groups + 1 ∧
        o.front < o'.front) := by
  cases h with
  | later front h => exact .inl ⟨rfl, rfl, h⟩
  | leaf held h =>
      refine .inl ⟨?_, rfl, Nat.le_refl _⟩
      simp [Outline.marks, held, Pattern.groupMarks_of_isLeaf h]
  | flags span items held =>
      refine .inl ⟨?_, rfl, Nat.le_refl _⟩
      simp [Outline.marks, held, Pattern.groupMarks]
  | hold held h repeatable =>
      refine .inl ⟨?_, rfl, Nat.le_refl _⟩
      simp [Outline.marks, held, Level.gather_of_items h]
  | holdLeaf item held h =>
      refine .inl ⟨?_, rfl, Nat.le_refl _⟩
      simp [Outline.marks, held, Pattern.groupMarks_of_isLeaf h]
  | again span min max greedy held =>
      refine .inl ⟨?_, rfl, Nat.le_refl _⟩
      simp [Outline.marks, held, Pattern.groupMarks]
  | bar stop next held =>
      refine .inl ⟨?_, rfl, Nat.le_refl _⟩
      simp [Outline.marks, held]
  | openMarked start front held mark h =>
      refine .inr ⟨?_, rfl, h⟩
      simp [Outline.marks, OpenGroup.marks, held, mark]
  | openPlain span items start held =>
      refine .inl ⟨?_, rfl, Nat.le_refl _⟩
      simp [Outline.marks, OpenGroup.marks, held, GroupKind.marks]
  | close stop stop' held h =>
      refine .inl ⟨?_, rfl, Nat.le_refl _⟩
      simp [Outline.marks, OpenGroup.marks, held, h, Pattern.groupMarks,
        Level.gather_close gathers_groupMarks]

/-- **The groups of a state are numbered in the order of their places,** and all that is to come
will be behind them. -/
structure Outline.Numbered (o : Outline) : Prop where
  numbers : o.marks.map Prod.snd = List.range' 1 o.groups
  places : (o.marks.map Prod.fst).Pairwise (· < ·)
  lt_front : ∀ mark ∈ o.marks, mark.1 < o.front

theorem Outline.Numbered.move {o o' : Outline} (ho : o.Numbered) (h : Move o o') : o'.Numbered := by
  rcases h.marks with ⟨marks, groups, front⟩ | ⟨marks, groups, front⟩
  · refine ⟨by rw [marks, groups, ho.numbers], by rw [marks]; exact ho.places, fun mark hmark => ?_⟩
    rw [marks] at hmark
    exact Nat.lt_of_lt_of_le (ho.lt_front mark hmark) front
  · refine ⟨?_, ?_, fun mark hmark => ?_⟩
    · rw [marks, groups, List.map_append, ho.numbers, List.range'_1_concat, Nat.add_comm 1]
      rfl
    · rw [marks, List.map_append, List.pairwise_append]
      refine ⟨ho.places, List.pairwise_singleton .., fun place hplace last hlast => ?_⟩
      obtain ⟨mark, hmark, rfl⟩ := List.mem_map.1 hplace
      rw [List.mem_singleton.1 hlast]
      exact ho.lt_front mark hmark
    · rw [marks] at hmark
      rcases List.mem_append.1 hmark with hmark | hmark
      · exact Nat.lt_trans (ho.lt_front mark hmark) front
      · rw [List.mem_singleton.1 hmark]
        exact front

theorem Outline.Numbered.moves {o o' : Outline} (ho : o.Numbered) (h : ReflTransGen Move o o') :
    o'.Numbered := by
  induction h with
  | refl => exact ho
  | tail _ h ih => exact ih.move h

/-- What moves open is opened behind what there was. -/
theorem marks_of_moves {o o' : Outline} (h : ReflTransGen Move o o') :
    o.front ≤ o'.front ∧
      ∃ later, o'.marks = o.marks ++ later ∧ ∀ mark ∈ later, o.front ≤ mark.1 := by
  induction h with
  | refl => exact ⟨Nat.le_refl _, [], by simp, fun _ h => by cases h⟩
  | @tail b c _ h ih =>
      obtain ⟨hle, later, hlater, hmem⟩ := ih
      rcases h.marks with ⟨marks, -, front⟩ | ⟨marks, -, front⟩
      · exact ⟨Nat.le_trans hle front, later, marks.trans hlater, hmem⟩
      · refine ⟨Nat.le_trans hle (Nat.le_of_lt front), later ++ [(b.front, b.groups + 1)], ?_,
          fun mark hmark => ?_⟩
        · rw [marks, hlater, List.append_assoc]
        · rcases List.mem_append.1 hmark with hmark | hmark
          · exact hmem mark hmark
          · rw [List.mem_singleton.1 hmark]
            exact hle

/-! ### Names -/

/-- The groups that were opened up to the beginning of a group, with that group, and their names. -/
def OpenGroup.groupNames (group : OpenGroup) : List (Nat × Option (List Char)) :=
  group.outer.gather Pattern.groupNames ++ group.kind.groupNames

/-- **The groups of a state, with their names.** -/
def Outline.groupNames (o : Outline) : List (Nat × Option (List Char)) :=
  o.stack.reverse.flatMap OpenGroup.groupNames ++
    (o.level.gather Pattern.groupNames ++ o.held.elim [] Pattern.groupNames)

theorem Pattern.groupNames_of_isLeaf {item : Pattern} (h : item.isLeaf) : item.groupNames = [] := by
  cases item with
  | repetition | group | choice | sequence => cases h
  | _ => rfl

/-- A move opens no group, or one behind all others, and takes the name of that group. -/
theorem Move.groupNames {o o' : Outline} (h : Move o o') :
    (o'.groupNames = o.groupNames ∧ o'.names = o.names) ∨
      ∃ kind : GroupKind, o'.groupNames = o.groupNames ++ kind.groupNames ∧
        o'.names.map Prod.fst = kind.names ++ o.names.map Prod.fst := by
  cases h with
  | later front h => exact .inl ⟨rfl, rfl⟩
  | leaf held h =>
      refine .inl ⟨?_, rfl⟩
      simp [Outline.groupNames, held, Pattern.groupNames_of_isLeaf h]
  | flags span items held =>
      refine .inl ⟨?_, rfl⟩
      simp [Outline.groupNames, held, Pattern.groupNames]
  | hold held h repeatable =>
      refine .inl ⟨?_, rfl⟩
      simp [Outline.groupNames, held, Level.gather_of_items h]
  | holdLeaf item held h =>
      refine .inl ⟨?_, rfl⟩
      simp [Outline.groupNames, held, Pattern.groupNames_of_isLeaf h]
  | again span min max greedy held =>
      refine .inl ⟨?_, rfl⟩
      simp [Outline.groupNames, held, Pattern.groupNames]
  | bar stop next held =>
      refine .inl ⟨?_, rfl⟩
      simp [Outline.groupNames, held]
  | @openMarked span kind names start front held mark h named =>
      refine .inr ⟨kind, ?_, named⟩
      simp [Outline.groupNames, OpenGroup.groupNames, held]
  | openPlain span items start held =>
      refine .inl ⟨?_, rfl⟩
      simp [Outline.groupNames, OpenGroup.groupNames, held, GroupKind.groupNames]
  | close stop stop' held h =>
      refine .inl ⟨?_, rfl⟩
      simp [Outline.groupNames, OpenGroup.groupNames, held, h, Pattern.groupNames,
        Level.gather_close gathers_groupNames]

/-- **The names that are taken are those of the groups,** the last one first. -/
def Outline.Named (o : Outline) : Prop :=
  o.names.map Prod.fst = (o.groupNames.filterMap Prod.snd).reverse

theorem Outline.Named.move {o o' : Outline} (ho : o.Named) (h : Move o o') : o'.Named := by
  unfold Outline.Named at ho ⊢
  rcases h.groupNames with ⟨groups, names⟩ | ⟨kind, groups, names⟩
  · rw [groups, names, ho]
  · have single : kind.names.reverse = kind.names := by cases kind <;> rfl
    rw [groups, names, ho, List.filterMap_append, List.reverse_append]
    exact congrArg (· ++ _) single.symm

theorem Outline.Named.moves {o o' : Outline} (ho : o.Named) (h : ReflTransGen Move o o') :
    o'.Named := by
  induction h with
  | refl => exact ho
  | tail _ h ih => exact ih.move h

/-- A name that is taken stays taken. -/
theorem mem_names_of_moves {o o' : Outline} (h : ReflTransGen Move o o') {name : List Char}
    (hname : name ∈ o.names.map Prod.fst) : name ∈ o'.names.map Prod.fst := by
  induction h with
  | refl => exact hname
  | tail _ h ih =>
      rcases h.groupNames with ⟨-, names⟩ | ⟨kind, -, names⟩
      · rw [names]
        exact ih
      · rw [names]
        exact List.mem_append_right _ ih

/-! ### Outside of all groups -/

/-- **Blanks are ignored at a level only after a flag setting that says so,** which stands there or
is held, and the level starts where the text starts. -/
structure Level.Outermost (level : Level) (held : Option Pattern) (verbose : Bool) : Prop where
  first : level.first = 0
  verbose : verbose → ∃ items ∈ level.gather Pattern.directives ++ held.elim [] Pattern.directives,
    flagState .verbose items = some true

/-- What holds of the level outside of all groups. -/
def Outline.Based (o : Outline) : Prop :=
  match o.stack.getLast? with
  | none => o.level.Outermost o.held o.verbose
  | some group => group.outer.Outermost none group.verbose

theorem Pattern.directives_of_isLeaf {item : Pattern} (h : item.isLeaf) : item.directives = [] := by
  cases item with
  | flags | repetition | group | choice | sequence => cases h
  | _ => rfl

theorem Level.first_bar (level : Level) (stop next : Position) :
    (level.bar stop next).first = level.first := by
  obtain ⟨start, items, rows⟩ := level
  cases rows <;> rfl

/-- Inside of groups nothing changes outside of them. -/
theorem Outline.Based.of_stack {o o' : Outline} (ho : o.Based) (hne : o.stack ≠ [])
    (h : o'.stack.getLast? = o.stack.getLast?) : o'.Based := by
  have hlast := List.getLast?_eq_some_getLast hne
  rw [Outline.Based, hlast] at ho
  rw [Outline.Based, h, hlast]
  exact ho

/-- A level that loses no flag setting stays as it is. -/
theorem Level.Outermost.mono {level level' : Level} {held held' : Option Pattern}
    {verbose verbose' : Bool} (h : level.Outermost held verbose)
    (first : level'.first = level.first) (hverbose : verbose' → verbose)
    (hmem : ∀ items ∈ level.gather Pattern.directives ++ held.elim [] Pattern.directives,
      items ∈ level'.gather Pattern.directives ++ held'.elim [] Pattern.directives) :
    level'.Outermost held' verbose' := by
  refine ⟨first.trans h.first, fun hv => ?_⟩
  obtain ⟨items, hitems, hstate⟩ := h.verbose (hverbose hv)
  exact ⟨items, hmem items hitems, hstate⟩

theorem Outline.Based.move {o o' : Outline} (ho : o.Based) (h : Move o o') : o'.Based := by
  obtain ⟨front, groups, names, verbose, level, stack, held⟩ := o
  cases stack with
  | cons group stack =>
      cases h with
      | openMarked | openPlain => exact ho.of_stack (List.cons_ne_nil _ _) List.getLast?_cons_cons
      | close stop stop' held h =>
          obtain ⟨rfl, rfl⟩ := List.cons.inj h
          cases stack with
          | cons group' stack =>
              exact ho.of_stack (List.cons_ne_nil _ _) List.getLast?_cons_cons.symm
          | nil =>
              cases held
              have houter : group.outer.Outermost none group.verbose := ho
              exact houter.mono rfl id
                (by simp [Pattern.directives])
      | _ => exact ho.of_stack (List.cons_ne_nil _ _) rfl
  | nil =>
      replace ho : level.Outermost held verbose := ho
      cases h with
      | later => exact ho
      | leaf hheld h =>
          cases hheld
          exact ho.mono rfl id (by simp [Pattern.directives_of_isLeaf h])
      | flags span items hheld =>
          cases hheld
          refine ⟨ho.first, fun hv => ?_⟩
          cases hstate : flagState .verbose items with
          | none =>
              simp only [hstate, Option.getD_none] at hv
              obtain ⟨items', hmem, hstate'⟩ := ho.verbose hv
              exact ⟨items', by simp_all, hstate'⟩
          | some b =>
              simp only [hstate, Option.getD_some] at hv
              exact ⟨items, by simp [Pattern.directives], hstate.trans (congrArg some hv)⟩
      | hold hheld h =>
          cases hheld
          exact ho.mono rfl id (by simp [Level.gather_of_items h])
      | holdLeaf item hheld h =>
          cases hheld
          exact ho.mono rfl id (by simp [Pattern.directives_of_isLeaf h])
      | again span min max greedy hheld =>
          cases hheld
          exact ho.mono rfl id (by simp [Pattern.directives])
      | bar stop next hheld =>
          cases hheld
          exact ho.mono (Level.first_bar ..) id (by simp)
      | openMarked start front held =>
          cases held
          exact ho
      | openPlain span items start held =>
          cases held
          exact ho
      | close stop stop' held h => cases h

theorem Outline.Based.moves {o o' : Outline} (ho : o.Based) (h : ReflTransGen Move o o') :
    o'.Based := by
  induction h with
  | refl => exact ho
  | tail _ h ih => exact ih.move h

end ParamTemplate.Regex
