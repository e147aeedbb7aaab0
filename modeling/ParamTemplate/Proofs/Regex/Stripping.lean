/-
**Written expressions with fewer groups.**

A group that loses its number only holds together what is in it.  What is left of an expression when
some groups lose their numbers and the others get new ones is told without places, since an
expression that is written with fewer groups has its parts at other places, too.

Main definitions:

* `Regex.Pattern.strip` — what is left of a written expression;
* `Regex.Pattern.Uncounts` — an expression is another one in which some groups have no number.

Main results:

* `Regex.Pattern.Uncounts.numbers` — **the groups that are left, by their numbers**;
* `Regex.Pattern.Uncounts.tooDeep?_eq_none_iff` — the numbers have no part in the depth.
-/

import ParamTemplate.Proofs.Regex.Relabelling

set_option autoImplicit false

namespace ParamTemplate.Regex

/-! ### Places -/

/-- All parts at one place. -/
def Relabelling.nowhere : Relabelling where
  group _ := ⟨0, 0⟩
  span _ := ⟨0, 0⟩
  number := id

mutual

/-- Parts of a bracket that are moved twice. -/
theorem Bracket.relabel_relabel {q r r' : Relabelling}
    (h : ∀ span, q.span (r.span span) = r'.span span) : (b : Bracket) →
      (b.relabel r).relabel q = b.relabel r'
  | .empty _ | .literal _ | .range .. | .ascii .. | .short .. | .property .. => by
      simp only [Bracket.relabel, Literal.relabel, h]
  | .nested _ _ content => by
      simp only [Bracket.relabel, h, Bracket.relabel_relabel h content]
  | .union _ items => by
      simp only [Bracket.relabel, h, Bracket.relabelAll_relabelAll h items]
  | .op _ _ left right => by
      simp only [Bracket.relabel, h, Bracket.relabel_relabel h left,
        Bracket.relabel_relabel h right]

theorem Bracket.relabelAll_relabelAll {q r r' : Relabelling}
    (h : ∀ span, q.span (r.span span) = r'.span span) : (items : List Bracket) →
      Bracket.relabelAll q (Bracket.relabelAll r items) = Bracket.relabelAll r' items
  | [] => rfl
  | item :: rest => by
      simp only [Bracket.relabelAll, Bracket.relabel_relabel h item,
        Bracket.relabelAll_relabelAll h rest]

end

/-- A bracket has no groups. -/
theorem Bracket.relabel_number (number : Nat → Nat) (b : Bracket) :
    b.relabel .nowhere = b.relabel { Relabelling.nowhere with number } :=
  (Bracket.relabel_relabel (r := .nowhere) (q := .nowhere) (fun _ => rfl) b).symm.trans
    (Bracket.relabel_relabel (fun _ => rfl) b)

/-! ### What is left of an expression -/

/-- A kind of group under new numbers: without one, a group only holds together what is in it. -/
def GroupKind.strip (kept : Nat → Option Nat) : GroupKind → GroupKind
  | plain flags => plain flags
  | numbered index => ((kept index).map numbered).getD (plain [])
  | named index name => ((kept index).map (named · name)).getD (plain [])

mutual

/-- **What is left of a written expression** when its groups have new numbers or none. -/
def Pattern.strip (kept : Nat → Option Nat) : Pattern → Pattern
  | .repetition _ min max greedy body => .repetition ⟨0, 0⟩ min max greedy (body.strip kept)
  | .group _ kind body => .group ⟨0, 0⟩ (kind.strip kept) (body.strip kept)
  | .choice _ branches => .choice ⟨0, 0⟩ (Pattern.stripAll kept branches)
  | .sequence _ items => .sequence ⟨0, 0⟩ (Pattern.stripAll kept items)
  | p => p.relabel .nowhere

/-- What is left of a list of written expressions. -/
def Pattern.stripAll (kept : Nat → Option Nat) : List Pattern → List Pattern
  | [] => []
  | item :: rest => item.strip kept :: Pattern.stripAll kept rest

end

theorem Pattern.stripAll_eq_map (kept : Nat → Option Nat) (items : List Pattern) :
    Pattern.stripAll kept items = items.map (Pattern.strip kept) := by
  induction items with
  | nil => rfl
  | cons item rest ih => rw [Pattern.stripAll, ih, List.map_cons]

section

variable {kept kept' : Nat → Option Nat}

/-- A group has a number afterwards if it had one that is kept. -/
theorem GroupKind.numbers_strip (start start' : Position) (kind : GroupKind) :
    ((kind.strip kept).marks start).map Prod.snd =
      ((kind.marks start').map Prod.snd).filterMap kept := by
  cases kind with
  | plain => rfl
  | numbered index | named index =>
      unfold strip marks
      cases h : kept index <;> simp [h]

mutual

/-- **The groups that are left, by their numbers.** -/
theorem Pattern.numbers_strip : (p : Pattern) →
    (p.strip kept).groupMarks.map Prod.snd = (p.groupMarks.map Prod.snd).filterMap kept
  | .empty _ | .flags .. | .literal _ | .dot _ | .assertion .. | .short .. | .property ..
  | .bracket .. => rfl
  | .repetition _ _ _ _ body => Pattern.numbers_strip body
  | .group span kind body => by
      simp only [Pattern.strip, Pattern.groupMarks, List.map_append, List.filterMap_append,
        Pattern.numbers_strip body, GroupKind.numbers_strip _ span.start kind]
  | .choice _ branches => Pattern.allNumbers_strip branches
  | .sequence _ items => Pattern.allNumbers_strip items

theorem Pattern.allNumbers_strip : (items : List Pattern) →
    (Pattern.allGroupMarks (Pattern.stripAll kept items)).map Prod.snd =
      ((Pattern.allGroupMarks items).map Prod.snd).filterMap kept
  | [] => rfl
  | item :: rest => by
      simp only [Pattern.stripAll, Pattern.allGroupMarks, List.map_append, List.filterMap_append,
        Pattern.numbers_strip item, Pattern.allNumbers_strip rest]

end

theorem GroupKind.strip_strip (kind : GroupKind) :
    (kind.strip kept).strip kept' = kind.strip fun index => (kept index).bind kept' := by
  cases kind with
  | plain => rfl
  | numbered index | named index =>
      unfold strip
      cases h : kept index with
      | none => simp [h]
      | some index' => cases h' : kept' index' <;> simp [h, h']

mutual

/-- Groups may lose their numbers one after the other. -/
theorem Pattern.strip_strip : (p : Pattern) →
    (p.strip kept).strip kept' = p.strip fun index => (kept index).bind kept'
  | .empty _ | .flags .. | .literal _ | .dot _ | .assertion .. | .short .. | .property .. => rfl
  | .bracket _ negated content =>
      congrArg (Pattern.bracket ⟨0, 0⟩ negated) (Bracket.relabel_relabel (fun _ => rfl) content)
  | .repetition _ min max greedy body =>
      congrArg (Pattern.repetition ⟨0, 0⟩ min max greedy) (Pattern.strip_strip body)
  | .group _ kind body =>
      congrArg₂ (Pattern.group ⟨0, 0⟩) kind.strip_strip (Pattern.strip_strip body)
  | .choice _ branches => congrArg (Pattern.choice ⟨0, 0⟩) (Pattern.stripAll_stripAll branches)
  | .sequence _ items => congrArg (Pattern.sequence ⟨0, 0⟩) (Pattern.stripAll_stripAll items)

theorem Pattern.stripAll_stripAll : (items : List Pattern) →
    Pattern.stripAll kept' (Pattern.stripAll kept items) =
      Pattern.stripAll (fun index => (kept index).bind kept') items
  | [] => rfl
  | item :: rest =>
      congrArg₂ List.cons (Pattern.strip_strip item) (Pattern.stripAll_stripAll rest)

end

mutual

/-- **Where all groups keep a number,** an expression only gets other numbers. -/
theorem Pattern.strip_eq_relabel {number : Nat → Nat} : (p : Pattern) →
    (∀ index ∈ p.groupMarks.map Prod.snd, kept index = some (number index)) →
      p.strip kept = p.relabel { Relabelling.nowhere with number }
  | .empty _, _ | .flags .., _ | .literal _, _ | .dot _, _ | .assertion .., _ | .short .., _
  | .property .., _ => rfl
  | .bracket _ negated content, _ =>
      congrArg (Pattern.bracket ⟨0, 0⟩ negated) (Bracket.relabel_number number content)
  | .repetition _ min max greedy body, h =>
      congrArg (Pattern.repetition ⟨0, 0⟩ min max greedy) (Pattern.strip_eq_relabel body h)
  | .group _ kind body, h => by
      simp only [Pattern.groupMarks, List.map_append, List.forall_mem_append] at h
      refine congrArg₂ (Pattern.group ⟨0, 0⟩) ?_ (Pattern.strip_eq_relabel body h.2)
      cases kind with
      | plain => rfl
      | numbered index | named index =>
          have hindex := h.1 index (by simp [GroupKind.marks])
          simp [GroupKind.strip, GroupKind.relabel, hindex]
  | .choice _ branches, h =>
      congrArg (Pattern.choice ⟨0, 0⟩) (Pattern.stripAll_eq_relabelAll branches h)
  | .sequence _ items, h =>
      congrArg (Pattern.sequence ⟨0, 0⟩) (Pattern.stripAll_eq_relabelAll items h)

theorem Pattern.stripAll_eq_relabelAll {number : Nat → Nat} : (items : List Pattern) →
    (∀ index ∈ (Pattern.allGroupMarks items).map Prod.snd, kept index = some (number index)) →
      Pattern.stripAll kept items = Pattern.relabelAll { Relabelling.nowhere with number } items
  | [], _ => rfl
  | item :: rest, h => by
      simp only [Pattern.allGroupMarks, List.map_append, List.forall_mem_append] at h
      exact congrArg₂ List.cons (Pattern.strip_eq_relabel item h.1)
        (Pattern.stripAll_eq_relabelAll rest h.2)

end

/-! ### Depth -/

mutual

theorem Pattern.isSome_tooDeep?_strip (depth : Nat) : (p : Pattern) →
    ((p.strip kept).tooDeep? depth).isSome = (p.tooDeep? depth).isSome
  | .empty _ | .flags .. | .literal _ | .dot _ | .assertion .. | .short .. | .property .. => rfl
  | .bracket span negated content =>
      Pattern.isSome_tooDeep?_relabel .nowhere depth (.bracket span negated content)
  | .repetition _ _ _ _ body => by
      simp only [Pattern.strip, Pattern.tooDeep?]
      split
      · rfl
      · exact Pattern.isSome_tooDeep?_strip _ body
  | .group _ _ body => by
      simp only [Pattern.strip, Pattern.tooDeep?]
      split
      · rfl
      · exact Pattern.isSome_tooDeep?_strip _ body
  | .choice _ branches => by
      simp only [Pattern.strip, Pattern.tooDeep?]
      split
      · rfl
      · exact Pattern.isSome_anyTooDeep?_strip _ branches
  | .sequence _ items => by
      simp only [Pattern.strip, Pattern.tooDeep?]
      split
      · rfl
      · exact Pattern.isSome_anyTooDeep?_strip _ items

theorem Pattern.isSome_anyTooDeep?_strip (depth : Nat) : (items : List Pattern) →
    (Pattern.anyTooDeep? depth (Pattern.stripAll kept items)).isSome =
      (Pattern.anyTooDeep? depth items).isSome
  | [] => rfl
  | item :: rest => by
      simp only [Pattern.stripAll, Pattern.anyTooDeep?, Option.isSome_or,
        Pattern.isSome_tooDeep?_strip _ item, Pattern.isSome_anyTooDeep?_strip _ rest]

end

end

theorem Pattern.relabel_nowhere (p : Pattern) : p.relabel .nowhere = p.strip some :=
  (Pattern.strip_eq_relabel p fun _ _ => rfl).symm

/-! ### Expressions with fewer groups -/

/-- **Whether an expression is another one in which some groups have no number,** wherever its parts
stand. -/
def Pattern.Uncounts (kept : Nat → Option Nat) (p p' : Pattern) : Prop :=
  p'.strip some = p.strip kept

namespace Pattern.Uncounts

variable {kept : Nat → Option Nat} {p p' : Pattern}

/-- **The groups that are left, by their numbers.** -/
theorem numbers (h : Uncounts kept p p') :
    p'.groupMarks.map Prod.snd = (p.groupMarks.map Prod.snd).filterMap kept := by
  have left : (p'.strip some).groupMarks.map Prod.snd =
      (p'.groupMarks.map Prod.snd).filterMap some := numbers_strip p'
  rw [List.filterMap_some] at left
  rw [← left, h, numbers_strip]

theorem tooDeep?_eq_none_iff (h : Uncounts kept p p') (depth : Nat) :
    p'.tooDeep? depth = none ↔ p.tooDeep? depth = none := by
  have same : (p'.tooDeep? depth).isSome = (p.tooDeep? depth).isSome := by
    have left : ((p'.strip some).tooDeep? depth).isSome = (p'.tooDeep? depth).isSome :=
      isSome_tooDeep?_strip depth p'
    rw [← left, h, isSome_tooDeep?_strip]
  rw [← Option.not_isSome_iff_eq_none, same, Option.not_isSome_iff_eq_none]

end Pattern.Uncounts

end ParamTemplate.Regex
