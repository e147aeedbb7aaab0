/-
**Written expressions at other places.**

An expression that is read at another place of a text differs in where its parts stand and in the
numbers of its groups.  Neither matters for what it means, but for the numbers of the groups in the
meaning, nor for how deep it is nested.

Main definitions:

* `Regex.Relabelling` — other places and other numbers;
* `Regex.Pattern.relabel` — a written expression at other places, with other numbers;
* `Regex.Pattern.groupMarks` — where the groups of a written expression are opened, with their
  numbers.

Main results:

* `Regex.Pattern.meaning_relabel` — **what a written expression means changes with it only in the
  numbers of the groups**;
* `Regex.Pattern.tooDeep?_relabel` — how deep it is nested does not change.
-/

import ParamTemplate.Proofs.Regex.Renumbering
import ParamTemplate.Regex.Meaning

set_option autoImplicit false

namespace ParamTemplate.Regex

/-! ### Relabelling -/

/-- Other places and other numbers: where groups stand, where all other parts stand, and the numbers
of the groups. -/
structure Relabelling where
  group : Span → Span
  span : Span → Span
  number : Nat → Nat

/-- A literal at another place. -/
def Literal.relabel (r : Relabelling) (lit : Literal) : Literal :=
  { lit with span := r.span lit.span }

mutual

/-- A part of a bracket at another place. -/
def Bracket.relabel (r : Relabelling) : Bracket → Bracket
  | .empty span => .empty (r.span span)
  | .literal lit => .literal (lit.relabel r)
  | .range span lo hi => .range (r.span span) (lo.relabel r) (hi.relabel r)
  | .ascii span kind negated => .ascii (r.span span) kind negated
  | .short span kind negated => .short (r.span span) kind negated
  | .property span query negated => .property (r.span span) query negated
  | .nested span negated content => .nested (r.span span) negated (content.relabel r)
  | .union span items => .union (r.span span) (Bracket.relabelAll r items)
  | .op span operation left right =>
      .op (r.span span) operation (left.relabel r) (right.relabel r)

/-- The parts of a bracket at other places. -/
def Bracket.relabelAll (r : Relabelling) : List Bracket → List Bracket
  | [] => []
  | item :: rest => item.relabel r :: Bracket.relabelAll r rest

end

/-- A kind of group with another number. -/
def GroupKind.relabel (r : Relabelling) : GroupKind → GroupKind
  | plain flags => plain flags
  | numbered index => numbered (r.number index)
  | named index name => named (r.number index) name

mutual

/-- **A written expression at other places, with other numbers.** -/
def Pattern.relabel (r : Relabelling) : Pattern → Pattern
  | .empty span => .empty (r.span span)
  | .flags span items => .flags (r.span span) items
  | .literal lit => .literal (lit.relabel r)
  | .dot span => .dot (r.span span)
  | .assertion span kind => .assertion (r.span span) kind
  | .short span kind negated => .short (r.span span) kind negated
  | .property span query negated => .property (r.span span) query negated
  | .bracket span negated content => .bracket (r.span span) negated (content.relabel r)
  | .repetition span min max greedy body =>
      .repetition (r.span span) min max greedy (body.relabel r)
  | .group span kind body => .group (r.group span) (kind.relabel r) (body.relabel r)
  | .choice span branches => .choice (r.span span) (Pattern.relabelAll r branches)
  | .sequence span items => .sequence (r.span span) (Pattern.relabelAll r items)

/-- Written expressions at other places, with other numbers. -/
def Pattern.relabelAll (r : Relabelling) : List Pattern → List Pattern
  | [] => []
  | item :: rest => item.relabel r :: Pattern.relabelAll r rest

end

theorem Bracket.relabelAll_eq_map (r : Relabelling) (items : List Bracket) :
    Bracket.relabelAll r items = items.map (·.relabel r) := by
  induction items with
  | nil => rfl
  | cons item rest ih => rw [Bracket.relabelAll, ih, List.map_cons]

theorem Pattern.relabelAll_eq_map (r : Relabelling) (items : List Pattern) :
    Pattern.relabelAll r items = items.map (·.relabel r) := by
  induction items with
  | nil => rfl
  | cons item rest ih => rw [Pattern.relabelAll, ih, List.map_cons]

/-! ### Meaning -/

/-- A computation of two steps succeeds if both steps do. -/
theorem bind_eq_ok {ε α β : Type} {x : Except ε α} {g : α → Except ε β} {b : β} :
    x >>= g = .ok b ↔ ∃ a, x = .ok a ∧ g a = .ok b := by
  cases x with
  | error e => exact ⟨nofun, fun ⟨_, h, _⟩ => nomatch h⟩
  | ok a => exact ⟨fun h => ⟨a, rfl, h⟩, fun ⟨_, h, h'⟩ => by cases h; exact h'⟩

theorem eq_ok_of_toOption {ε α : Type} {x : Except ε α} {a : α} (h : x.toOption = some a) :
    x = .ok a := by
  cases x with
  | error e => cases h
  | ok b =>
      cases h
      rfl

/-- A computation whose value passes a test has a value. -/
theorem exists_eq_ok {ε α : Type} {x : Except ε α} {P : α → Prop} [DecidablePred P]
    (h : x.toOption.any (P ·)) : ∃ a, x = .ok a ∧ P a := by
  obtain ⟨a, ha, hP⟩ := (Option.any_eq_true ..).1 h
  exact ⟨a, eq_ok_of_toOption ha, of_decide_eq_true hP⟩

/-- A computation whose error passes a test has an error. -/
theorem exists_eq_error {ε α : Type} {x : Except ε α} {P : ε → Prop} [DecidablePred P]
    (h : (match x with | .ok _ => false | .error e => decide (P e)) = true) :
    ∃ e, x = .error e ∧ P e := by
  cases x with
  | error e => exact ⟨e, rfl, of_decide_eq_true h⟩
  | ok a => cases h

/-- The value of a computation of two steps. -/
theorem toOption_bind {ε α β : Type} (x : Except ε α) (f : α → Except ε β) :
    (x >>= f).toOption = x.toOption.bind fun a => (f a).toOption := by
  cases x <;> rfl

section

variable (r : Relabelling) (flags : Flags)

theorem toOption_negate (span span' : Span) (negated : Bool) (s : CharSet) :
    (flags.negate span negated s).toOption = (flags.negate span' negated s).toOption := by
  unfold Flags.negate
  split
  · split <;> rfl
  · rfl

theorem toOption_checkByte (lit : Literal) :
    (flags.checkByte (lit.relabel r)).toOption = (flags.checkByte lit).toOption := by
  obtain ⟨span, char, isByte⟩ := lit
  dsimp only [Flags.checkByte, Literal.relabel]
  split <;> rfl

theorem toOption_bracketCode (lit : Literal) :
    (flags.bracketCode (lit.relabel r)).toOption = (flags.bracketCode lit).toOption := by
  have code : ∀ lit : Literal, (flags.bracketCode lit).toOption =
      (flags.checkByte lit).toOption.bind fun _ =>
        if !flags.unicode && 0x80 ≤ lit.char.toNat then none else some lit.char.toNat := by
    intro lit
    simp only [Flags.bracketCode, toOption_bind]
    congr 1
    funext _
    split <;> rfl
  rw [code, code, toOption_checkByte]
  rfl

theorem toOption_propertySet (span span' : Span) (query : Unicode.PropertyQuery) (negated : Bool) :
    (flags.propertySet span query negated).toOption =
      (flags.propertySet span' query negated).toOption := by
  unfold Flags.propertySet
  split
  · split
    · exact toOption_negate ..
    · rfl
    · rfl
  · rfl

theorem toOption_dot (span span' : Span) :
    (flags.dot span).toOption = (flags.dot span').toOption := by
  unfold Flags.dot
  split
  · rfl
  · split
    · rfl
    · split <;> rfl

mutual

theorem Bracket.meaning_relabel : (b : Bracket) →
    ((b.relabel r).meaning flags).toOption = (b.meaning flags).toOption
  | .empty _ => rfl
  | .literal lit => by
      simp only [Bracket.relabel, Bracket.meaning, toOption_bind, toOption_bracketCode]
  | .range _ lo hi => by
      simp only [Bracket.relabel, Bracket.meaning, toOption_bind, toOption_bracketCode]
  | .ascii .. => toOption_negate ..
  | .short .. => toOption_negate ..
  | .property .. => toOption_propertySet ..
  | .nested span negated content => by
      simp only [Bracket.relabel, Bracket.meaning, toOption_bind,
        Bracket.meaning_relabel content, toOption_negate flags (r.span span) span]
  | .union _ items => Bracket.meanings_relabel items
  | .op _ _ left right => by
      simp only [Bracket.relabel, Bracket.meaning, toOption_bind,
        Bracket.meaning_relabel left, Bracket.meaning_relabel right]

theorem Bracket.meanings_relabel : (items : List Bracket) →
    (Bracket.meanings flags (Bracket.relabelAll r items)).toOption =
      (Bracket.meanings flags items).toOption
  | [] => rfl
  | item :: rest => by
      simp only [Bracket.relabelAll, Bracket.meanings, toOption_bind,
        Bracket.meaning_relabel item, Bracket.meanings_relabel rest]

end

end

theorem toOption_pure {ε α : Type} (a : α) : (pure a : Except ε α).toOption = some a := rfl

/-- The expression of a character has no groups. -/
theorem renumber_char (flags : Flags) (c : Char) (f : Nat → Nat) :
    (flags.char c).renumber f = flags.char c := by
  unfold Flags.char
  split
  · rfl
  · split
    · split
      · exact Expr.renumber_ofSet ..
      · rfl
    · split
      · exact Expr.renumber_ofSet ..
      · rfl

/-- The expression of the dot has no groups. -/
theorem renumber_dot {flags : Flags} {span : Span} {e : Expr} (h : flags.dot span = .ok e)
    (f : Nat → Nat) : e.renumber f = e := by
  unfold Flags.dot at h
  split at h
  · cases h
  · split at h
    · cases h
      rfl
    · split at h
      · cases h
        rfl
      · cases h
        rfl

mutual

/-- **What a written expression means changes with it only in the numbers of the groups.** -/
theorem Pattern.meaning_relabel {r : Relabelling} (hr : Function.Injective r.number)
    (flags : Flags) : (p : Pattern) → ((p.relabel r).meaning flags).toOption =
      (p.meaning flags).toOption.map fun result => (result.1.renumber r.number, result.2)
  | .empty _ => rfl
  | .flags .. => rfl
  | .literal lit => by
      simp only [Pattern.relabel, Pattern.meaning, Flags.literal, toOption_bind,
        toOption_checkByte, toOption_pure]
      cases (flags.checkByte lit).toOption with
      | none => rfl
      | some => simp [Literal.relabel, renumber_char]
  | .dot span => by
      simp only [Pattern.relabel, Pattern.meaning, toOption_bind, toOption_pure,
        toOption_dot flags (r.span span) span]
      cases hdot : flags.dot span with
      | error => rfl
      | ok e => simp [Except.toOption, renumber_dot hdot]
  | .assertion .. => rfl
  | .short span kind negated => by
      simp only [Pattern.relabel, Pattern.meaning, toOption_bind, toOption_pure,
        toOption_negate flags (r.span span) span]
      simp only [Option.map_bind, Function.comp_def, Option.map_some, Expr.renumber_ofSet]
  | .property span query negated => by
      simp only [Pattern.relabel, Pattern.meaning, toOption_bind, toOption_pure,
        toOption_propertySet flags (r.span span) span]
      simp only [Option.map_bind, Function.comp_def, Option.map_some, Expr.renumber_ofSet]
  | .bracket span negated content => by
      simp only [Pattern.relabel, Pattern.meaning, toOption_bind, toOption_pure,
        Bracket.meaning_relabel, toOption_negate flags (r.span span) span]
      simp only [Option.map_bind, Function.comp_def, Option.map_some, Expr.renumber_ofSet]
  | .repetition _ min max greedy body => by
      simp only [Pattern.relabel, Pattern.meaning, toOption_bind, toOption_pure,
        Pattern.meaning_relabel hr flags body]
      simp only [Option.map_bind, Option.bind_map, Function.comp_def, Option.map_some,
        Expr.renumber_repeated]
  | .group _ kind body => by
      have inner : (kind.relabel r).inner flags = kind.inner flags := by cases kind <;> rfl
      have wrap : ∀ e, (kind.wrap e).renumber r.number =
          (kind.relabel r).wrap (e.renumber r.number) := by
        intro e
        cases kind <;> rfl
      simp only [Pattern.relabel, Pattern.meaning, toOption_bind, toOption_pure, inner,
        Pattern.meaning_relabel hr (kind.inner flags) body]
      simp only [Option.map_bind, Option.bind_map, Function.comp_def, Option.map_some, wrap]
  | .choice _ branches => by
      simp only [Pattern.relabel, Pattern.meaning, toOption_bind, toOption_pure,
        Pattern.meanings_relabel hr flags branches]
      simp only [Option.map_bind, Option.bind_map, Function.comp_def, Option.map_some,
        Expr.renumber_choice hr]
  | .sequence _ items => by
      simp only [Pattern.relabel, Pattern.meaning, toOption_bind, toOption_pure,
        Pattern.meanings_relabel hr flags items]
      simp only [Option.map_bind, Option.bind_map, Function.comp_def, Option.map_some,
        Expr.renumber_concat]

theorem Pattern.meanings_relabel {r : Relabelling} (hr : Function.Injective r.number)
    (flags : Flags) : (items : List Pattern) →
      (Pattern.meanings flags (Pattern.relabelAll r items)).toOption =
        (Pattern.meanings flags items).toOption.map fun result =>
          (result.1.map (Expr.renumber r.number), result.2)
  | [] => rfl
  | item :: rest => by
      simp only [Pattern.relabelAll, Pattern.meanings, toOption_bind, toOption_pure,
        Pattern.meaning_relabel hr flags item]
      simp only [Option.map_bind, Option.bind_map, Function.comp_def,
        Pattern.meanings_relabel hr _ rest, Option.map_some, List.map_cons]

end

/-- **What is written with other places and numbers** means the same with other numbers. -/
theorem Pattern.meaning_relabel_eq_ok {r : Relabelling} (hr : Function.Injective r.number)
    {p : Pattern} {flags flags' : Flags} {e : Expr} :
    (p.relabel r).meaning flags = .ok (e, flags') ↔
      ∃ e', p.meaning flags = .ok (e', flags') ∧ e = e'.renumber r.number := by
  have relabelled := Pattern.meaning_relabel hr flags p
  constructor
  · intro h
    rw [h] at relabelled
    obtain ⟨⟨e', _⟩, he', heq⟩ := Option.map_eq_some_iff.1 relabelled.symm
    cases heq
    exact ⟨e', eq_ok_of_toOption he', rfl⟩
  · rintro ⟨e', h, rfl⟩
    rw [h] at relabelled
    exact eq_ok_of_toOption relabelled

/-! ### Depth -/

mutual

theorem Bracket.tooDeep?_relabel (r : Relabelling) (depth : Nat) : (b : Bracket) →
    (b.relabel r).tooDeep? depth = (b.tooDeep? depth).map r.span
  | .empty _ | .literal _ | .range .. | .ascii .. | .short .. | .property .. => rfl
  | .nested span _ content => by
      simp only [Bracket.relabel, Bracket.tooDeep?, Bracket.tooDeep?_relabel r _ content]
      split <;> rfl
  | .union span items => by
      simp only [Bracket.relabel, Bracket.tooDeep?, Bracket.anyTooDeep?_relabel r _ items]
      split <;> rfl
  | .op span _ left right => by
      simp only [Bracket.relabel, Bracket.tooDeep?, Bracket.tooDeep?_relabel r _ left,
        Bracket.tooDeep?_relabel r _ right]
      split
      · rfl
      · cases left.tooDeep? (depth + 1) <;> rfl

theorem Bracket.anyTooDeep?_relabel (r : Relabelling) (depth : Nat) : (items : List Bracket) →
    Bracket.anyTooDeep? depth (Bracket.relabelAll r items) =
      (Bracket.anyTooDeep? depth items).map r.span
  | [] => rfl
  | item :: rest => by
      simp only [Bracket.relabelAll, Bracket.anyTooDeep?, Bracket.tooDeep?_relabel r _ item,
        Bracket.anyTooDeep?_relabel r _ rest]
      cases item.tooDeep? depth <;> rfl

end

mutual

/-- **How deep a written expression is nested does not change with its places and numbers.** -/
theorem Pattern.isSome_tooDeep?_relabel (r : Relabelling) (depth : Nat) : (p : Pattern) →
    ((p.relabel r).tooDeep? depth).isSome = (p.tooDeep? depth).isSome
  | .empty _ | .flags .. | .literal _ | .dot _ | .assertion .. | .short .. | .property .. => rfl
  | .bracket span _ content => by
      simp only [Pattern.relabel, Pattern.tooDeep?, Bracket.tooDeep?_relabel r _ content]
      split
      · rfl
      · rw [Option.isSome_map]
  | .repetition span _ _ _ body => by
      simp only [Pattern.relabel, Pattern.tooDeep?]
      split
      · rfl
      · exact Pattern.isSome_tooDeep?_relabel r _ body
  | .group span _ body => by
      simp only [Pattern.relabel, Pattern.tooDeep?]
      split
      · rfl
      · exact Pattern.isSome_tooDeep?_relabel r _ body
  | .choice span branches => by
      simp only [Pattern.relabel, Pattern.tooDeep?]
      split
      · rfl
      · exact Pattern.isSome_anyTooDeep?_relabel r _ branches
  | .sequence span items => by
      simp only [Pattern.relabel, Pattern.tooDeep?]
      split
      · rfl
      · exact Pattern.isSome_anyTooDeep?_relabel r _ items

theorem Pattern.isSome_anyTooDeep?_relabel (r : Relabelling) (depth : Nat) :
    (items : List Pattern) →
      (Pattern.anyTooDeep? depth (Pattern.relabelAll r items)).isSome =
        (Pattern.anyTooDeep? depth items).isSome
  | [] => rfl
  | item :: rest => by
      simp only [Pattern.relabelAll, Pattern.anyTooDeep?, Option.isSome_or,
        Pattern.isSome_tooDeep?_relabel r _ item, Pattern.isSome_anyTooDeep?_relabel r _ rest]

end

/-! ### Groups -/

/-- Where a group of a kind is opened, with its number if it has one. -/
def GroupKind.marks (start : Position) : GroupKind → List (Position × Nat)
  | plain _ => []
  | numbered index | named index _ => [(start, index)]

mutual

/-- **Where the groups of a written expression are opened, with their numbers.** -/
def Pattern.groupMarks : Pattern → List (Position × Nat)
  | .repetition _ _ _ _ body => body.groupMarks
  | .group span kind body => kind.marks span.start ++ body.groupMarks
  | .choice _ branches => Pattern.allGroupMarks branches
  | .sequence _ items => Pattern.allGroupMarks items
  | _ => []

/-- Where the groups of a list of written expressions are opened, with their numbers. -/
def Pattern.allGroupMarks : List Pattern → List (Position × Nat)
  | [] => []
  | item :: rest => item.groupMarks ++ Pattern.allGroupMarks rest

end

theorem Pattern.allGroupMarks_eq_flatMap (items : List Pattern) :
    Pattern.allGroupMarks items = items.flatMap Pattern.groupMarks := by
  induction items with
  | nil => rfl
  | cons item rest ih => rw [Pattern.allGroupMarks, ih, List.flatMap_cons]

mutual

theorem Pattern.groupMarks_relabel {r : Relabelling} {place : Position → Position}
    (hr : ∀ span, (r.group span).start = place span.start) : (p : Pattern) →
      (p.relabel r).groupMarks = p.groupMarks.map fun mark => (place mark.1, r.number mark.2)
  | .empty _ | .flags .. | .literal _ | .dot _ | .assertion .. | .short .. | .property ..
  | .bracket .. => rfl
  | .repetition _ _ _ _ body => Pattern.groupMarks_relabel hr body
  | .group span kind body => by
      have marks : (kind.relabel r).marks (r.group span).start =
          (kind.marks span.start).map fun mark => (place mark.1, r.number mark.2) := by
        rw [hr]
        cases kind <;> rfl
      simp only [Pattern.relabel, Pattern.groupMarks, marks, Pattern.groupMarks_relabel hr body,
        List.map_append]
  | .choice _ branches => Pattern.allGroupMarks_relabel hr branches
  | .sequence _ items => Pattern.allGroupMarks_relabel hr items

theorem Pattern.allGroupMarks_relabel {r : Relabelling} {place : Position → Position}
    (hr : ∀ span, (r.group span).start = place span.start) : (items : List Pattern) →
      Pattern.allGroupMarks (Pattern.relabelAll r items) =
        (Pattern.allGroupMarks items).map fun mark => (place mark.1, r.number mark.2)
  | [] => rfl
  | item :: rest => by
      simp only [Pattern.relabelAll, Pattern.allGroupMarks, Pattern.groupMarks_relabel hr item,
        Pattern.allGroupMarks_relabel hr rest, List.map_append]

end

end ParamTemplate.Regex
