/-
**What a character can do to the groups.**

Most of what a reader does is about the construction that it is in the middle of.  Seen from the
groups, with the levels around and inside of them, there are only a few moves: an item comes to the
sequence at hand or leaves it to be repeated, a branch ends, a group is opened, and a group is
closed.  Every character comes to a few such moves, so what the moves preserve holds of all states
that a reader can reach.

Main definitions:

* `Regex.Outline`, `Regex.Move` — the part of a state that has to do with groups, and the moves;
* `Regex.Mode.Fits` — the modes that a reader can be in at a place, with some brackets open;
* `Regex.Reader.Leads` — one state leads to another by moves;
* `Regex.Reader.Settles` — it does so without a character, and the other one takes a character in.

Main result:

* `Regex.Reader.leads_of_feedAll` — **reading a text leads from a state to the next by moves,** one
  place further for each character.
-/

import ParamTemplate.Proofs.Regex.Naming
import ParamTemplate.Proofs.Regex.Reader.Frame
import Mathlib.Logic.Relation

set_option autoImplicit false

namespace ParamTemplate.Regex

open Relation (ReflTransGen)

/-! ### Moves -/

/-- The part of a state that has to do with groups.  `front` is the place before which all is
settled, and `held` is what is about to be repeated. -/
structure Outline where
  front : Position
  groups : Nat
  names : List (List Char × Span)
  verbose : Bool
  level : Level
  stack : List OpenGroup
  held : Option Pattern

/-- Whether an item is made at once, without items inside of it. -/
def Pattern.isLeaf : Pattern → Bool
  | literal _ | dot _ | assertion .. | short .. | property .. | bracket .. => true
  | _ => false

/-- **The moves.** -/
inductive Move (o : Outline) : Outline → Prop
  | later (front : Position) (h : o.front ≤ front) : Move o { o with front }
  | leaf {item : Pattern} (held : o.held = none) (h : item.isLeaf) :
      Move o { o with level := o.level.push item }
  | flags (span : Span) (items : List FlagItem) (held : o.held = none) :
      Move o { o with
        level := o.level.push (.flags span items)
        verbose := (flagState .verbose items).getD o.verbose }
  | hold {item : Pattern} {items : List Pattern} (held : o.held = none)
      (h : o.level.items = item :: items) (repeatable : item.isRepeatable) :
      Move o { o with level := { o.level with items }, held := some item }
  | holdLeaf (item : Pattern) (held : o.held = none) (h : item.isLeaf) :
      Move o { o with held := some item }
  | again {body : Pattern} (span : Span) (min : Nat) (max : Option Nat) (greedy : Bool)
      (held : o.held = some body) :
      Move o { o with level := o.level.push (.repetition span min max greedy body), held := none }
  | bar (stop next : Position) (held : o.held = none) :
      Move o { o with level := o.level.bar stop next }
  | openMarked {span : Span} {kind : GroupKind} {names : List (List Char × Span)}
      (start front : Position) (held : o.held = none)
      (mark : kind.marks span.start = [(o.front, o.groups + 1)]) (h : o.front < front)
      (named : names.map Prod.fst = kind.names ++ o.names.map Prod.fst) :
      Move o { o with
        front
        groups := o.groups + 1
        names
        level := .opened start
        stack := { outer := o.level, span, kind, verbose := o.verbose } :: o.stack }
  | openPlain (span : Span) (items : List FlagItem) (start : Position) (held : o.held = none) :
      Move o { o with
        verbose := (flagState .verbose items).getD o.verbose
        level := .opened start
        stack := { outer := o.level, span, kind := .plain items, verbose := o.verbose } :: o.stack }
  | close {group : OpenGroup} {stack : List OpenGroup} (stop stop' : Position)
      (held : o.held = none) (h : o.stack = group :: stack) :
      Move o { o with
        verbose := group.verbose
        level := group.outer.push (.group ⟨group.span.start, stop'⟩ group.kind (o.level.close stop))
        stack }

/-! ### Modes -/

namespace Mode

/-- What is about to be repeated. -/
def held : Mode → Option Pattern
  | afterOperator body .. => some body
  | minimum counted _ | afterMinimum counted _ | afterComma counted _ | maximum counted ..
  | afterMaximum counted .. | afterCount counted .. => some counted.body
  | _ => none

/-- The place before which all is settled: the place reached, unless it is not known what a
parenthesis opens or whether a bracket begins an ASCII class. -/
def front (pos : Position) : Mode → Position
  | asciiName start _ => start + 1
  | groupOpen span | groupQuestion span _ | groupAngle span | groupLetter span _ | groupName span ..
  | groupFlags span .. => span.start
  | _ => pos

/-- **Whether a reader can be in a mode** at a place, with some brackets open. -/
def Fits (pos : Position) (brackets : List OpenBracket) : Mode → Prop
  | main | afterOperator .. | minimum .. | afterMinimum .. | afterComma .. | maximum ..
  | afterMaximum .. | afterCount .. => brackets = []
  | groupOpen span | groupQuestion span _ | groupAngle span | groupLetter span _ | groupName span ..
  | groupFlags span .. => brackets = [] ∧ span.start < pos
  | asciiName start seen =>
      brackets ≠ [] ∧ pos = start + 1 + seen.length ∧ beginsAsciiClass seen ∧
        asciiClass? seen = none
  | twin char _ => brackets ≠ [] ∧ (bracketOp? char).isSome
  | bracket | afterAtom _ | dash .. | rangeEnd _ => brackets ≠ []
  | _ => True

/-- Whether a mode is not dealt with by taking a character in: the beginning of what may be an
ASCII class, and a dash in a bracket. -/
def isApart : Mode → Bool
  | asciiName .. | dash .. => true
  | _ => false

/-- Whether a mode takes a character in, after all that was over has been settled. -/
def takes : Mode → Bool
  | afterHexFixed .. | afterHexBraced .. | afterPropertyLetter .. | asciiName .. | dash .. => false
  | _ => true

/-- Whether nothing is held in a mode, and no group is being opened. -/
structure Plain (mode : Mode) : Prop where
  held : mode.held = none
  front : ∀ pos, mode.front pos = pos

end Mode

namespace Reader

/-- The part of a state that has to do with groups. -/
def outline (s : Reader) : Outline where
  front := s.mode.front s.pos
  groups := s.groups
  names := s.names
  verbose := s.verbose
  level := s.level
  stack := s.stack
  held := s.mode.held

/-- Whether a reader can be in its mode. -/
def Fits (s : Reader) : Prop := s.mode.Fits s.pos s.brackets

/-- **One state leads to another,** some characters later, by moves. -/
structure Leads (count : Nat) (s t : Reader) : Prop where
  pos : t.pos = s.pos + count
  comment : t.comment = s.comment
  fits : t.Fits
  moves : ReflTransGen Move s.outline t.outline

variable {s t u : Reader} {m n : Nat}

theorem Leads.refl (h : s.Fits) : Leads 0 s s := ⟨rfl, rfl, h, .refl⟩

theorem Leads.trans (h : Leads m s t) (h' : Leads n t u) : Leads (m + n) s u where
  pos := by rw [h'.pos, h.pos, Nat.add_assoc]
  comment := h'.comment.trans h.comment
  fits := h'.fits
  moves := h.moves.trans h'.moves

/-- What follows a character may be told from the place after it. -/
theorem Leads.next (h : Leads 0 { s with pos := s.pos + 1 } t)
    (hs : ∀ pos, s.mode.front pos = pos) : Leads 1 s t where
  pos := h.pos
  comment := h.comment
  fits := h.fits
  moves := by
    refine .head (.later (s.pos + 1) ?_) ?_
    · exact Nat.le_succ_of_le (Nat.le_of_eq (hs _))
    · have := h.moves
      simp only [outline, hs] at this ⊢
      exact this

/-- A character that changes nothing but the mode. -/
theorem Leads.pass {mode : Mode} (hheld : mode.held = s.mode.held)
    (hfront : s.mode.front s.pos ≤ mode.front (s.pos + 1))
    (hfits : mode.Fits (s.pos + 1) s.brackets) : Leads 1 s (s.pass mode) where
  pos := rfl
  comment := rfl
  fits := hfits
  moves := by
    have outline : (s.pass mode).outline = { s.outline with front := mode.front (s.pos + 1) } := by
      simp only [Reader.outline, Reader.pass, hheld]
    rw [outline]
    exact .single (.later _ hfront)

theorem Leads.pass_plain {mode : Mode} (hs : s.mode.Plain) (hmode : mode.Plain)
    (hfits : mode.Fits (s.pos + 1) s.brackets) : Leads 1 s (s.pass mode) :=
  .pass (hmode.held.trans hs.held.symm) (by simp only [hs.front, hmode.front, Nat.le_succ]) hfits

theorem Leads.of_pass {mode : Mode} (h : .ok (s.pass mode) = (.ok t : Except Complaint Reader))
    (hs : s.mode.Plain) (hmode : mode.Plain) (hfits : mode.Fits (s.pos + 1) s.brackets) :
    Leads 1 s t := by
  cases h
  exact .pass_plain hs hmode hfits

/-- A change of the mode alone. -/
theorem Leads.turn (mode : Mode) (hheld : mode.held = s.mode.held)
    (hfront : s.mode.front s.pos ≤ mode.front s.pos) (hfits : mode.Fits s.pos s.brackets) :
    Leads 0 s { s with mode } where
  pos := rfl
  comment := rfl
  fits := hfits
  moves := by
    have outline : { s with mode }.outline = { s.outline with front := mode.front s.pos } := by
      simp only [outline, hheld]
    rw [outline]
    exact .single (.later _ hfront)

/-- **A state leads to another one without a character,** and that one takes a character in. -/
structure Settles (s t : Reader) : Prop extends Leads 0 s t where
  takes : t.mode.takes

theorem Settles.stay (hs : s.Fits) (htakes : s.mode.takes)
    (h : .ok s = (.ok t : Except Complaint Reader)) : Settles s t := by
  cases h
  exact ⟨.refl hs, htakes⟩

theorem Settles.turn {mode : Mode} (h : .ok { s with mode } = (.ok t : Except Complaint Reader))
    (hheld : mode.held = s.mode.held) (hfront : s.mode.front s.pos ≤ mode.front s.pos)
    (hfits : mode.Fits s.pos s.brackets) (htakes : mode.takes) : Settles s t := by
  cases h
  exact ⟨.turn mode hheld hfront hfits, htakes⟩

/-! ### Items -/

@[simp] theorem mode_pushBracket (s : Reader) (item : Bracket) :
    (s.pushBracket item).mode = .bracket := by
  unfold pushBracket
  split <;> rfl

@[simp] theorem verbose_pushBracket (s : Reader) (item : Bracket) :
    (s.pushBracket item).verbose = s.verbose := by
  unfold pushBracket
  split <;> rfl

/-- A leaf comes to the sequence at hand. -/
theorem push_leads (item : Pattern) (hs : s.mode.Plain) (hb : s.brackets = [])
    (h : item.isLeaf) : Leads 0 s (s.push item) where
  pos := rfl
  comment := rfl
  fits := hb
  moves := by
    refine .single ?_
    have := Move.leaf (o := s.outline) hs.held h
    simp only [outline, hs.front, hs.held] at this ⊢
    exact this

theorem pushBracket_settles (hs : s.mode.Plain) (hb : s.brackets ≠ []) (item : Bracket) :
    Settles s (s.pushBracket item) := by
  obtain ⟨pos, verbose, comment, groups, names, level, stack, brackets, mode⟩ := s
  cases brackets with
  | nil => exact absurd rfl hb
  | cons bracket brackets =>
      refine ⟨⟨rfl, rfl, List.cons_ne_nil _ _, ?_⟩, rfl⟩
      simp only [outline, hs.front, hs.held]
      exact .refl

theorem closeRange_settles {lo hi : Atom} (hs : s.mode.Plain) (hb : s.brackets ≠ [])
    (h : s.closeRange lo hi = .ok t) : Settles s t := by
  obtain ⟨first, -, h⟩ := bind_eq_ok.1 h
  obtain ⟨last, -, h⟩ := bind_eq_ok.1 h
  split at h
  · cases h
    exact pushBracket_settles hs hb _
  · cases h

theorem Atom.isLeaf_toPattern (atom : Atom) : atom.toPattern.isLeaf := by
  cases atom <;> rfl

theorem deliver_settles {atom : Atom} (hs : s.mode.Plain) (h : s.deliver atom = .ok t) :
    Settles s t := by
  unfold deliver at h
  split at h
  next hb =>
    cases h
    exact ⟨push_leads _ hs hb (Atom.isLeaf_toPattern atom), rfl⟩
  next bracket brackets hb =>
    have hne : s.brackets ≠ [] := by simp [hb]
    split at h
    · exact closeRange_settles hs hne h
    · exact .turn h hs.held.symm (Nat.le_of_eq (hs.front _)) hne rfl

theorem complete_leads {atom : Atom} (hs : s.mode.Plain) (h : s.complete atom = .ok t) :
    Leads 1 s t :=
  (deliver_settles (s := { s with pos := s.pos + 1 }) hs h).next hs.front

/-! ### Repetitions -/

theorem takeOperand_eq_ok {body : Pattern} (h : s.takeOperand = .ok (body, t)) :
    ∃ items, s.level.items = body :: items ∧ body.isRepeatable ∧
      t = { s with level := { s.level with items } } := by
  unfold takeOperand at h
  split at h
  next item items hitems =>
    split at h
    · cases h
      exact ⟨items, hitems, ‹_›, rfl⟩
    · cases h
  · cases h

/-- The operand of a repetition is taken off the sequence at hand. -/
theorem hold_leads {body : Pattern} {mode : Mode} (hs : s.mode.Plain)
    (h : s.takeOperand = .ok (body, t)) (hheld : mode.held = some body)
    (hfront : ∀ pos, mode.front pos = pos) (hfits : mode.Fits (s.pos + 1) s.brackets) :
    Leads 1 s (t.pass mode) := by
  obtain ⟨items, hitems, hrepeatable, rfl⟩ := takeOperand_eq_ok h
  refine ⟨rfl, rfl, hfits, .tail (.single (.hold hs.held hitems hrepeatable)) ?_⟩
  have := Move.later (o := { s.outline with
    level := { s.level with items }, held := some body }) (s.pos + 1)
    (Nat.le_succ_of_le (Nat.le_of_eq (hs.front _)))
  simp only [outline, pass, hs.front, hheld, hfront] at this ⊢
  exact this

theorem startRepetition_leads {min : Nat} {max : Option Nat} (hs : s.mode.Plain)
    (hb : s.brackets = []) (h : s.startRepetition min max = .ok t) : Leads 1 s t := by
  obtain ⟨⟨body, u⟩, hoperand, h⟩ := bind_eq_ok.1 h
  cases h
  exact hold_leads hs hoperand rfl (fun _ => rfl) hb

theorem startCount_leads (hs : s.mode.Plain) (hb : s.brackets = [])
    (h : s.startCount = .ok t) : Leads 1 s t := by
  obtain ⟨⟨body, u⟩, hoperand, h⟩ := bind_eq_ok.1 h
  cases h
  exact hold_leads hs hoperand rfl (fun _ => rfl) hb

/-- What is held comes back, as the body of a repetition. -/
theorem pushRepetition_leads {body : Pattern} (hheld : s.mode.held = some body)
    (hfront : ∀ pos, s.mode.front pos = pos) (hb : s.brackets = []) (min : Nat) (max : Option Nat)
    (greedy : Bool) : Leads 0 s (s.pushRepetition body min max greedy) where
  pos := rfl
  comment := rfl
  fits := hb
  moves := by
    refine .single ?_
    have := Move.again (o := s.outline) (body.span.upTo s.pos) min max greedy hheld
    simp only [outline, hfront] at this ⊢
    exact this

theorem pushCounted_settles {counted : Counted} {min : Nat} {max : Option Nat} {greedy : Bool}
    (hheld : s.mode.held = some counted.body) (hfront : ∀ pos, s.mode.front pos = pos)
    (hb : s.brackets = []) (h : s.pushCounted counted min max greedy = .ok t) :
    Settles s t := by
  unfold pushCounted at h
  split at h
  · split at h
    · cases h
      exact ⟨pushRepetition_leads hheld hfront hb .., rfl⟩
    · cases h
  · cases h
    exact ⟨pushRepetition_leads hheld hfront hb .., rfl⟩

theorem feedAfterMinimum_leads {counted : Counted} {min min' : Except Complaint Nat} {c : Char}
    (hmode : s.mode = .afterMinimum counted min') (hs : s.Fits)
    (h : s.feedAfterMinimum counted min c = .ok t) : Leads 1 s t := by
  rw [Fits, hmode] at hs
  have later : s.mode.front s.pos ≤ s.pos + 1 := hmode ▸ Nat.le_succ _
  have held : some counted.body = s.mode.held := hmode ▸ rfl
  unfold feedAfterMinimum at h
  split at h
  · cases h
    exact .pass held later hs
  · split at h
    · cases h
      exact .pass held later hs
    · obtain ⟨n, -, h⟩ := bind_eq_ok.1 h
      split at h
      · cases h
        exact .pass held later hs
      · cases h

theorem feedAfterMaximum_leads {counted : Counted} {min min' max max' : Nat} {c : Char}
    (hmode : s.mode = .afterMaximum counted min' max') (hs : s.Fits)
    (h : s.feedAfterMaximum counted min max c = .ok t) : Leads 1 s t := by
  rw [Fits, hmode] at hs
  have later : s.mode.front s.pos ≤ s.pos + 1 := hmode ▸ Nat.le_succ _
  have held : some counted.body = s.mode.held := hmode ▸ rfl
  unfold feedAfterMaximum at h
  split at h
  · cases h
    exact .pass held later hs
  · split at h
    · cases h
      exact .pass held later hs
    · cases h

/-! ### Escapes -/

theorem feedEscape_leads {start : Position} {c : Char} (hs : s.mode.Plain)
    (h : s.feedEscape start c = .ok t) : Leads 1 s t := by
  unfold feedEscape at h
  split at h
  · cases h
  split at h
  · exact .of_pass h hs ⟨rfl, fun _ => rfl⟩ trivial
  split at h
  · exact .of_pass h hs ⟨rfl, fun _ => rfl⟩ trivial
  split at h
  · exact .of_pass h hs ⟨rfl, fun _ => rfl⟩ trivial
  split at h
  · exact .of_pass h hs ⟨rfl, fun _ => rfl⟩ trivial
  split at h
  · exact .of_pass h hs ⟨rfl, fun _ => rfl⟩ trivial
  split at h
  · exact complete_leads hs h
  · exact complete_leads hs h
  · exact complete_leads hs h
  · split at h
    · exact complete_leads hs h
    · cases h

theorem feedHex_leads {start : Position} {width : Nat} {c : Char} (hs : s.mode.Plain)
    (h : s.feedHex start width c = .ok t) : Leads 1 s t := by
  unfold feedHex at h
  split at h
  · exact .of_pass h hs ⟨rfl, fun _ => rfl⟩ trivial
  · split at h
    · exact .of_pass h hs ⟨rfl, fun _ => rfl⟩ trivial
    · cases h

theorem feedHexFixed_leads {start digitsStart : Position} {width : Nat} {digits : List Char}
    {c : Char} (hs : s.mode.Plain) (h : s.feedHexFixed start digitsStart width digits c = .ok t) :
    Leads 1 s t := by
  unfold feedHexFixed at h
  dsimp only at h
  split at h
  · split at h
    · exact .of_pass h hs ⟨rfl, fun _ => rfl⟩ trivial
    · exact .of_pass h hs ⟨rfl, fun _ => rfl⟩ trivial
  · cases h

theorem feedHexBraced_leads {start brace digitsStart : Position} {digits : List Char} {c : Char}
    (hs : s.mode.Plain) (h : s.feedHexBraced start brace digitsStart digits c = .ok t) :
    Leads 1 s t := by
  unfold feedHexBraced at h
  split at h
  · exact .of_pass h hs ⟨rfl, fun _ => rfl⟩ trivial
  · split at h
    · exact .of_pass h hs ⟨rfl, fun _ => rfl⟩ trivial
    · cases h

theorem finishHexFixed_eq_ok_iff {start digitsStart : Position} {width : Nat}
    {digits : List Char} : s.finishHexFixed start digitsStart width digits = .ok t ↔
      ∃ char, charOfHex? digits = some char ∧
        s.deliver (.literal { span := ⟨start, s.pos⟩, char, isByte := width = 2 }) = .ok t := by
  unfold finishHexFixed
  cases charOfHex? digits with
  | none => exact ⟨nofun, nofun⟩
  | some char => simp

theorem finishHexBraced_eq_ok_iff {start brace digitsStart digitsStop : Position}
    {digits : List Char} :
    s.finishHexBraced start brace digitsStart digitsStop digits = .ok t ↔
      ∃ char, digits.isEmpty = false ∧ charOfHex? digits = some char ∧
        s.deliver (.literal { span := ⟨start, s.pos⟩, char }) = .ok t := by
  unfold finishHexBraced
  cases digits.isEmpty with
  | true => exact ⟨nofun, nofun⟩
  | false =>
      cases charOfHex? digits with
      | none => exact ⟨nofun, nofun⟩
      | some char => simp

theorem finishHexFixed_settles {start digitsStart : Position} {width : Nat} {digits : List Char}
    (hs : s.mode.Plain) (h : s.finishHexFixed start digitsStart width digits = .ok t) :
    Settles s t := by
  obtain ⟨char, -, h⟩ := finishHexFixed_eq_ok_iff.1 h
  exact deliver_settles hs h

theorem finishHexBraced_settles {start brace digitsStart digitsStop : Position}
    {digits : List Char} (hs : s.mode.Plain)
    (h : s.finishHexBraced start brace digitsStart digitsStop digits = .ok t) : Settles s t := by
  obtain ⟨char, -, -, h⟩ := finishHexBraced_eq_ok_iff.1 h
  exact deliver_settles hs h

theorem feedProperty_leads {start : Position} {negated : Bool} {c : Char} (hs : s.mode.Plain)
    (h : s.feedProperty start negated c = .ok t) : Leads 1 s t := by
  unfold feedProperty at h
  split at h
  · exact .of_pass h hs ⟨rfl, fun _ => rfl⟩ trivial
  · split at h
    · cases h
    · exact .of_pass h hs ⟨rfl, fun _ => rfl⟩ trivial

theorem feedPropertyName_leads {start : Position} {negated : Bool} {name : List Char} {c : Char}
    (hs : s.mode.Plain) (h : s.feedPropertyName start negated name c = .ok t) : Leads 1 s t := by
  unfold feedPropertyName at h
  split at h
  · exact complete_leads hs h
  · exact .of_pass h hs ⟨rfl, fun _ => rfl⟩ trivial

/-- A boundary may be held at once. -/
theorem boundaryCount_settles {span : Span} {brace : Position} (hs : s.mode.Plain)
    (h : s.boundaryCount span brace = .ok t) : Settles s t := by
  unfold boundaryCount at h
  split at h
  next hb =>
    cases h
    refine ⟨⟨rfl, rfl, hb, .single ?_⟩, rfl⟩
    have := Move.holdLeaf (o := s.outline) (.assertion span .wordBoundary) hs.held rfl
    simp only [outline, hs.front] at this ⊢
    exact this
  next bracket brackets hb =>
    split at h
    · exact closeRange_settles hs (by simp [hb]) h
    · cases h

theorem feedBoundaryName_leads {span : Span} {brace nameStart : Position} {name : List Char}
    {c : Char} (hs : s.mode.Plain) (h : s.feedBoundaryName span brace nameStart name c = .ok t) :
    Leads 1 s t := by
  unfold feedBoundaryName at h
  split at h
  · exact .of_pass h hs ⟨rfl, fun _ => rfl⟩ trivial
  · split at h
    · split at h
      · exact complete_leads hs h
      · cases h
    · cases h

/-! ### Groups -/

/-- Whether a parenthesis whose meaning is not known yet stands at a span. -/
structure Opening (s : Reader) (span : Span) : Prop where
  held : s.mode.held = none
  front : ∀ pos, s.mode.front pos = span.start
  lt : span.start < s.pos
  brackets : s.brackets = []

/-- A group with a number is opened. -/
theorem openMarked_leads {span : Span} {kind : GroupKind} {pos count : Nat}
    {names : List (List Char × Span)} (hs : s.Opening span)
    (mark : kind.marks span.start = [(span.start, s.groups + 1)])
    (named : names.map Prod.fst = kind.names ++ s.names.map Prod.fst) (hpos : pos = s.pos + count) :
    Leads count s
      ({ s with pos, groups := s.groups + 1, names }.openGroup span kind s.verbose) where
  pos := hpos
  comment := rfl
  fits := hs.brackets
  moves := by
    refine .single ?_
    have hlt : s.outline.front < pos := by
      rw [outline, hs.front, hpos]
      exact Nat.lt_add_right _ hs.lt
    have := Move.openMarked (o := s.outline) pos pos hs.held (by rw [mark, outline, hs.front]) hlt
      named
    simp only [outline, hs.held] at this ⊢
    exact this

theorem openNumbered_leads {span : Span} (hs : s.Opening span) :
    Leads 0 s (s.openNumbered span) :=
  openMarked_leads hs rfl rfl rfl

theorem closeGroup_leads (hs : s.mode.Plain) (hb : s.brackets = [])
    (h : s.closeGroup = .ok t) : Leads 1 s t := by
  unfold closeGroup at h
  split at h
  · cases h
  next group stack hstack =>
    cases h
    refine ⟨rfl, rfl, hb, .tail (.single (.later (s.pos + 1) ?_)) ?_⟩
    · exact Nat.le_succ_of_le (Nat.le_of_eq (hs.front _))
    · have := Move.close (o := { s.outline with front := s.pos + 1 }) s.pos (s.pos + 1)
        hs.held hstack
      simp only [outline, hs.held] at this ⊢
      exact this

theorem bar_leads (hs : s.mode.Plain) (hb : s.brackets = []) : Leads 1 s s.bar where
  pos := rfl
  comment := rfl
  fits := hb
  moves := by
    refine .tail (.single (.later (s.pos + 1) ?_)) ?_
    · exact Nat.le_succ_of_le (Nat.le_of_eq (hs.front _))
    · have := Move.bar (o := { s.outline with front := s.pos + 1 }) s.pos (s.pos + 1)
        hs.held
      simp only [outline, hs.held] at this ⊢
      exact this

/-- One more character of what opens a group. -/
theorem Opening.pass {span : Span} {mode : Mode} (hs : s.Opening span) (hheld : mode.held = none)
    (hfront : ∀ pos, mode.front pos = span.start)
    (hfits : s.brackets = [] ∧ span.start < s.pos + 1 → mode.Fits (s.pos + 1) s.brackets) :
    Leads 1 s (s.pass mode) :=
  .pass (hheld.trans hs.held.symm) (Nat.le_of_eq ((hs.front _).trans (hfront _).symm))
    (hfits ⟨hs.brackets, Nat.lt_succ_of_lt hs.lt⟩)

theorem feedGroupQuestion_leads {span : Span} {c : Char} (hs : s.Opening span)
    (h : s.feedGroupQuestion span c = .ok t) : Leads 1 s t := by
  unfold feedGroupQuestion at h
  split at h
  · cases h
  · split at h
    · cases h
      exact hs.pass rfl (fun _ => rfl) id
    · cases h
      exact hs.pass rfl (fun _ => rfl) id

theorem feedGroupName_leads {span : Span} {start : Position} {name : List Char} {c : Char}
    (hs : s.Opening span) (h : s.feedGroupName span start name c = .ok t) : Leads 1 s t := by
  unfold feedGroupName at h
  split at h
  · split at h
    · cases h
    · dsimp only at h
      split at h
      · cases h
      · cases h
        exact openMarked_leads hs rfl rfl rfl
  · split at h
    · cases h
      exact hs.pass rfl (fun _ => rfl) id
    · cases h

theorem feedFlagItem_leads {span : Span} {inner : Position} {items : List (FlagItem × Span)}
    {c : Char} (hs : s.Opening span) (h : s.feedFlagItem span inner items c = .ok t) :
    Leads 1 s t := by
  unfold feedFlagItem at h
  split at h
  · cases h
  · split at h
    · cases h
    · cases h
      exact hs.pass rfl (fun _ => rfl) id

/-- A list of flags opens a group, or stands alone. -/
theorem finishFlags_leads {span : Span} {inner : Position} {items : List FlagItem} {c : Char}
    (hs : s.Opening span) (h : s.finishFlags span inner items c = .ok t) : Leads 1 s t := by
  have later : Move s.outline { s.outline with front := s.pos + 1 } :=
    .later _ (Nat.le_succ_of_le (Nat.le_trans (Nat.le_of_eq (hs.front _)) (Nat.le_of_lt hs.lt)))
  unfold finishFlags at h
  dsimp only at h
  split at h
  · cases h
    refine ⟨rfl, rfl, hs.brackets, .tail (.single later) ?_⟩
    have := Move.openPlain (o := { s.outline with front := s.pos + 1 }) span items
      (s.pos + 1) hs.held
    simp only [outline, hs.held] at this ⊢
    exact this
  · split at h
    · cases h
    · cases h
      refine ⟨rfl, rfl, hs.brackets, .tail (.single later) ?_⟩
      have := Move.flags (o := { s.outline with front := s.pos + 1 })
        (span.upTo (s.pos + 1)) items hs.held
      simp only [outline, hs.held] at this ⊢
      exact this

theorem feedGroupFlags_leads {span : Span} {inner : Position} {items : List (FlagItem × Span)}
    {c : Char} (hs : s.Opening span) (h : s.feedGroupFlags span inner items c = .ok t) :
    Leads 1 s t := by
  unfold feedGroupFlags at h
  split at h
  · split at h
    · cases h
    · exact finishFlags_leads hs h
  · exact feedFlagItem_leads hs h

/-! ### Brackets -/

theorem startBracket_leads (hs : s.mode.Plain) : Leads 1 s s.startBracket :=
  .pass_plain hs ⟨rfl, fun _ => rfl⟩ trivial

theorem feedBracketOpen_leads (hs : s.mode.Plain) (start : Position) (negated : Bool)
    (union : BracketUnion) (c : Char) : Leads 1 s (s.feedBracketOpen start negated union c) := by
  unfold feedBracketOpen
  split
  · exact .pass_plain hs ⟨rfl, fun _ => rfl⟩ trivial
  · exact .pass_plain hs ⟨rfl, fun _ => rfl⟩ trivial

theorem finishBracketOpen_leads (hs : s.mode.Plain) (start : Position) (negated : Bool)
    (union : BracketUnion) : Leads 0 s (s.finishBracketOpen start negated union) := by
  refine ⟨rfl, rfl, List.cons_ne_nil _ _, ?_⟩
  simp only [outline, hs.front, hs.held]
  exact .refl

theorem closeBracket_leads (hs : s.mode.Plain) (hb : s.brackets ≠ []) :
    Leads 1 s s.closeBracket := by
  unfold closeBracket
  split
  · exact absurd ‹_› hb
  next bracket brackets hbrackets =>
    refine .next ?_ hs.front
    dsimp only
    split
    next hempty =>
      have := push_leads (s := { s with pos := s.pos + 1, brackets })
        (.bracket ⟨bracket.span.start, s.pos + 1⟩ bracket.negated bracket.content) hs
        (List.isEmpty_iff.1 hempty) rfl
      exact ⟨this.pos, this.comment, this.fits, this.moves⟩
    next hempty =>
      have := pushBracket_settles (s := { s with pos := s.pos + 1, brackets }) hs
        (fun h => hempty (List.isEmpty_iff.2 h))
        (.nested ⟨bracket.span.start, s.pos + 1⟩ bracket.negated bracket.content)
      exact ⟨this.pos, this.comment, this.fits, this.moves⟩

theorem combineBracket_leads (hs : s.mode.Plain) (hb : s.brackets ≠ []) (op : BracketOp) :
    Leads 1 s (s.combineBracket op) := by
  unfold combineBracket
  split
  · exact absurd ‹_› hb
  · refine .next ⟨rfl, rfl, List.cons_ne_nil _ _, ?_⟩ hs.front
    simp only [outline, hs.front, hs.held]
    exact .refl

theorem feedBracket_leads (hs : s.mode.Plain) (hb : s.brackets ≠ []) (c : Char) :
    Leads 1 s (s.feedBracket c) := by
  unfold feedBracket
  split
  · exact .pass hs.held.symm (Nat.le_succ_of_le (Nat.le_of_eq (hs.front _)))
      ⟨hb, rfl, by decide, by decide⟩
  split
  · exact closeBracket_leads hs hb
  split
  · exact .pass_plain hs ⟨rfl, fun _ => rfl⟩ ⟨hb, ‹_›⟩
  split
  · exact .pass_plain hs ⟨rfl, fun _ => rfl⟩ trivial
  · exact .pass_plain hs ⟨rfl, fun _ => rfl⟩ hb

theorem feedTwin_leads {twin : Char} (hs : s.mode.Plain) (hb : s.brackets ≠ [])
    (htwin : (bracketOp? twin).isSome) : Leads 1 s (s.feedTwin twin) := by
  unfold feedTwin
  obtain ⟨op, hop⟩ := Option.isSome_iff_exists.1 htwin
  rw [hop]
  exact combineBracket_leads hs hb op

theorem feedRangeEnd_leads {lo : Atom} {c : Char} (hs : s.mode.Plain) (hb : s.brackets ≠ [])
    (h : s.feedRangeEnd lo c = .ok t) : Leads 1 s t := by
  unfold feedRangeEnd at h
  split at h
  · cases h
    obtain ⟨pos, verbose, comment, groups, names, level, stack, brackets, mode⟩ := s
    cases brackets with
    | nil => exact absurd rfl hb
    | cons bracket brackets =>
        refine .next ⟨rfl, rfl, trivial, ?_⟩ hs.front
        simp only [outline, pass, openRange, hs.front, hs.held]
        exact .refl
  · exact (closeRange_settles (s := { s with pos := s.pos + 1 }) hs hb h).next hs.front

theorem settleDash_leads {atom : Atom} {start : Position} {adjacent : Bool} {c : Char}
    (hs : s.mode.Plain) (hb : s.brackets ≠ [])
    (h : s.settleDash atom start adjacent c = .ok t) :
    Leads 0 s t ∧ t.mode.isApart = false ∧ t.verbose = s.verbose := by
  unfold settleDash at h
  split at h
  · obtain ⟨item, -, h⟩ := bind_eq_ok.1 h
    have pushed := pushBracket_settles hs hb item
    have plain : (s.pushBracket item).mode.Plain := mode_pushBracket s item ▸ ⟨rfl, fun _ => rfl⟩
    have hne : (s.pushBracket item).brackets ≠ [] := by
      have := pushed.fits
      rwa [Fits, mode_pushBracket] at this
    split at h
    · cases h
      exact ⟨pushed.trans (.turn (.twin '-' start) plain.held.symm
        (Nat.le_of_eq (plain.front _)) ⟨hne, rfl⟩), rfl, verbose_pushBracket s item⟩
    · cases h
      exact ⟨pushed.trans (.turn (.afterAtom _) plain.held.symm
        (Nat.le_of_eq (plain.front _)) hne), rfl, verbose_pushBracket s item⟩
  · cases h
    exact ⟨.turn _ hs.held.symm (Nat.le_of_eq (hs.front _)) hb, rfl, rfl⟩

/-! ### The machine -/

/-- A choice comes to what both of its branches come to. -/
theorem of_ite {condition : Prop} [Decidable condition] {x y : Except Complaint Reader} {p : Prop}
    (h : (if condition then x else y) = .ok t) (hx : x = .ok t → p) (hy : y = .ok t → p) : p := by
  split at h
  · exact hx h
  · exact hy h

/-- **What a character shows to be over is ended by moves,** after which a character can be taken
in. -/
theorem settle_settles {next : Option Char} (hs : s.Fits) (hmode : s.mode.isApart = false)
    (h : s.settle next = .ok t) : Settles s t := by
  obtain ⟨pos, verbose, comment, groups, names, level, stack, brackets, mode⟩ := s
  cases mode with
  | afterOperator body min max =>
      refine of_ite h (.stay hs rfl) (fun h => ?_)
      cases h
      exact ⟨pushRepetition_leads rfl (fun _ => rfl) hs .., rfl⟩
  | minimum counted number =>
      cases next with
      | none => cases h
      | some c => exact of_ite h (.stay hs rfl) (.turn · rfl (Nat.le_refl _) hs rfl)
  | afterMinimum counted min => exact of_ite h nofun (.stay hs rfl)
  | afterComma counted min =>
      cases next with
      | none => cases h
      | some c =>
          refine of_ite h (.stay hs rfl) (fun h => ?_)
          obtain ⟨n, -, h⟩ := bind_eq_ok.1 h
          exact .turn h rfl (Nat.le_refl _) hs rfl
  | maximum counted min number =>
      refine of_ite h (.stay hs rfl) (fun h => ?_)
      obtain ⟨n, -, h⟩ := bind_eq_ok.1 h
      exact .turn h rfl (Nat.le_refl _) hs rfl
  | afterMaximum counted min max => exact of_ite h nofun (.stay hs rfl)
  | afterCount counted min max =>
      exact of_ite h (.stay hs rfl) (pushCounted_settles rfl (fun _ => rfl) hs)
  | afterHexFixed start digitsStart width digits =>
      exact finishHexFixed_settles ⟨rfl, fun _ => rfl⟩ h
  | afterHexBraced start brace digitsStart digitsStop digits =>
      exact finishHexBraced_settles ⟨rfl, fun _ => rfl⟩ h
  | afterPropertyLetter start negated letter => exact deliver_settles ⟨rfl, fun _ => rfl⟩ h
  | afterBoundary span => exact of_ite h (.stay hs rfl) (deliver_settles ⟨rfl, fun _ => rfl⟩)
  | boundaryBrace span brace =>
      cases next with
      | none => cases h
      | some c => exact of_ite h (.stay hs rfl) (boundaryCount_settles ⟨rfl, fun _ => rfl⟩)
  | groupOpen span =>
      refine of_ite h (.stay hs rfl) (fun h => ?_)
      cases h
      exact ⟨openNumbered_leads ⟨rfl, fun _ => rfl, hs.2, hs.1⟩, rfl⟩
  | groupQuestion span inner =>
      cases next with
      | none => exact .stay hs rfl h
      | some c => exact of_ite h (.stay hs rfl) (.turn · rfl (Nat.le_refl _) hs rfl)
  | groupAngle span =>
      cases next with
      | none => exact .stay hs rfl h
      | some c => exact of_ite h (.stay hs rfl) (.turn · rfl (Nat.le_refl _) hs rfl)
  | bracketOpen start negated stage union =>
      cases next with
      | none => exact .stay hs rfl h
      | some c =>
          refine of_ite h (.stay hs rfl) (fun h => ?_)
          cases h
          exact ⟨finishBracketOpen_leads ⟨rfl, fun _ => rfl⟩ .., rfl⟩
  | twin char start =>
      exact of_ite h (.stay hs rfl) (.turn · rfl (Nat.le_refl _) hs.1 rfl)
  | afterAtom atom =>
      refine of_ite h (.stay hs rfl) (fun h => ?_)
      obtain ⟨item, -, h⟩ := bind_eq_ok.1 h
      cases h
      exact pushBracket_settles ⟨rfl, fun _ => rfl⟩ hs item
  | main | escape | hex | hexFixed | hexBraced | property | propertyName | boundaryName
  | groupLetter | groupName | groupFlags | bracket | rangeEnd => exact .stay hs rfl h
  | asciiName | dash => cases hmode

/-- Nothing is settled where a character is not taken in anyway. -/
theorem settle_of_isApart (hmode : s.mode.isApart) (next : Option Char) :
    s.settle next = .ok s := by
  unfold settle
  split <;> simp_all [Mode.isApart]

theorem settle_leads {next : Option Char} (hs : s.Fits) (h : s.settle next = .ok t) :
    Leads 0 s t := by
  cases hmode : s.mode.isApart with
  | false => exact (settle_settles hs hmode h).toLeads
  | true =>
      cases (settle_of_isApart hmode next).symm.trans h
      exact .refl hs

theorem takeMain_leads {c : Char} (hs : s.mode.Plain) (hb : s.brackets = [])
    (h : s.takeMain c = .ok t) : Leads 1 s t := by
  unfold takeMain at h
  split at h
  · cases h
    exact .pass hs.held.symm (Nat.le_of_eq (hs.front _)) ⟨hb, Nat.lt_succ_self _⟩
  · exact closeGroup_leads hs hb h
  · cases h
    exact bar_leads hs hb
  · cases h
    exact startBracket_leads hs
  · exact startRepetition_leads hs hb h
  · exact startRepetition_leads hs hb h
  · exact startRepetition_leads hs hb h
  · exact startCount_leads hs hb h
  · exact .of_pass h hs ⟨rfl, fun _ => rfl⟩ trivial
  · exact complete_leads hs h
  · exact complete_leads hs h
  · exact complete_leads hs h
  · exact complete_leads hs h

/-- A character is taken in by moves. -/
theorem take_leads {c : Char} (hs : s.Fits) (htakes : s.mode.takes) (h : s.take c = .ok t) :
    Leads 1 s t := by
  obtain ⟨pos, verbose, comment, groups, names, level, stack, brackets, mode⟩ := s
  cases mode with
  | main => exact takeMain_leads ⟨rfl, fun _ => rfl⟩ hs h
  | afterOperator body min max =>
      cases h
      exact .next (pushRepetition_leads
        (s := ⟨pos + 1, verbose, comment, groups, names, level, stack, brackets, .afterOperator ..⟩)
        rfl (fun _ => rfl) hs min max false) (fun _ => rfl)
  | minimum counted number =>
      cases h
      exact .pass rfl (Nat.le_succ _) hs
  | afterMinimum counted min => exact feedAfterMinimum_leads rfl hs h
  | afterComma counted min =>
      obtain ⟨n, -, h⟩ := bind_eq_ok.1 h
      cases h
      exact .pass rfl (Nat.le_succ _) hs
  | maximum counted min number =>
      cases h
      exact .pass rfl (Nat.le_succ _) hs
  | afterMaximum counted min max => exact feedAfterMaximum_leads rfl hs h
  | afterCount counted min max =>
      exact .next (pushCounted_settles
        (s := ⟨pos + 1, verbose, comment, groups, names, level, stack, brackets, .afterCount ..⟩)
        rfl (fun _ => rfl) hs h).toLeads (fun _ => rfl)
  | escape start => exact feedEscape_leads ⟨rfl, fun _ => rfl⟩ h
  | hex start width => exact feedHex_leads ⟨rfl, fun _ => rfl⟩ h
  | hexFixed start digitsStart width digits => exact feedHexFixed_leads ⟨rfl, fun _ => rfl⟩ h
  | hexBraced start brace digitsStart digits => exact feedHexBraced_leads ⟨rfl, fun _ => rfl⟩ h
  | property start negated => exact feedProperty_leads ⟨rfl, fun _ => rfl⟩ h
  | propertyName start negated name => exact feedPropertyName_leads ⟨rfl, fun _ => rfl⟩ h
  | afterBoundary span =>
      cases h
      exact .pass_plain ⟨rfl, fun _ => rfl⟩ ⟨rfl, fun _ => rfl⟩ trivial
  | boundaryBrace span brace =>
      cases h
      exact .pass_plain ⟨rfl, fun _ => rfl⟩ ⟨rfl, fun _ => rfl⟩ trivial
  | boundaryName span brace nameStart name =>
      exact feedBoundaryName_leads ⟨rfl, fun _ => rfl⟩ h
  | groupOpen span =>
      cases h
      exact .pass rfl (Nat.le_refl _) ⟨hs.1, Nat.lt_succ_of_lt hs.2⟩
  | groupQuestion span inner =>
      exact feedGroupQuestion_leads ⟨rfl, fun _ => rfl, hs.2, hs.1⟩ h
  | groupAngle span => cases h
  | groupLetter span letter =>
      refine of_ite h (fun h => ?_) (fun h => ?_)
      · cases h
        exact .pass rfl (Nat.le_refl _) ⟨hs.1, Nat.lt_succ_of_lt hs.2⟩
      · cases h
  | groupName span start name => exact feedGroupName_leads ⟨rfl, fun _ => rfl, hs.2, hs.1⟩ h
  | groupFlags span inner items => exact feedGroupFlags_leads ⟨rfl, fun _ => rfl, hs.2, hs.1⟩ h
  | bracketOpen start negated stage union =>
      cases h
      exact feedBracketOpen_leads ⟨rfl, fun _ => rfl⟩ ..
  | bracket =>
      cases h
      exact feedBracket_leads ⟨rfl, fun _ => rfl⟩ hs c
  | twin char start =>
      cases h
      exact feedTwin_leads ⟨rfl, fun _ => rfl⟩ hs.1 hs.2
  | afterAtom atom =>
      cases h
      exact .pass_plain ⟨rfl, fun _ => rfl⟩ ⟨rfl, fun _ => rfl⟩ hs
  | rangeEnd atom => exact feedRangeEnd_leads ⟨rfl, fun _ => rfl⟩ hs h
  | afterHexFixed | afterHexBraced | afterPropertyLetter | asciiName | dash => cases htakes

/-! ### Reading -/

/-- **One state leads to another by reading some characters.**  Only where blanks are ignored there
are comments. -/
structure Reads (count : Nat) (s t : Reader) : Prop where
  pos : t.pos = s.pos + count
  comment : (s.comment → s.verbose) → t.comment → t.verbose
  fits : t.Fits
  moves : ReflTransGen Move s.outline t.outline

theorem Reads.refl (h : s.Fits) : Reads 0 s s := ⟨rfl, id, h, .refl⟩

theorem Reads.trans {m n : Nat} (h : Reads m s t) (h' : Reads n t u) : Reads (m + n) s u where
  pos := by rw [h'.pos, h.pos, Nat.add_assoc]
  comment := fun hs => h'.comment (h.comment hs)
  fits := h'.fits
  moves := h.moves.trans h'.moves

/-- A character that begins, continues or ends a comment, or is a blank. -/
theorem reads_of_ignored (hs : s.Fits) (hmode : s.mode.isApart = false) {comment : Bool}
    (h : (s.comment → s.verbose) → comment → s.verbose) :
    Reads 1 s { s with pos := s.pos + 1, comment } := by
  obtain ⟨pos, verbose, _, groups, names, level, stack, brackets, mode⟩ := s
  have fits : mode.Fits (pos + 1) brackets := by
    unfold Fits at hs
    cases mode with
    | asciiName | dash => cases hmode
    | groupOpen | groupQuestion | groupAngle | groupLetter | groupName | groupFlags =>
        exact ⟨hs.1, Nat.lt_succ_of_lt hs.2⟩
    | _ => exact hs
  have front : mode.front pos ≤ mode.front (pos + 1) := by
    cases mode with
    | asciiName | groupOpen | groupQuestion | groupAngle | groupLetter | groupName | groupFlags =>
        exact Nat.le_refl _
    | _ => exact Nat.le_succ _
  exact ⟨rfl, h, fits, .single (.later _ front)⟩

theorem isApart_of_skips {mode : Mode} (h : mode.skips) : mode.isApart = false := by
  cases mode with
  | asciiName | dash => cases h
  | _ => rfl

theorem isApart_of_takes {mode : Mode} (h : mode.takes) : mode.isApart = false := by
  cases mode with
  | asciiName | dash => cases h
  | _ => rfl

theorem reads_skip {c : Char} (hs : s.Fits) (h : s.skips c) : Reads 1 s (s.skip c) := by
  unfold skips at h
  simp only [Bool.and_eq_true] at h
  exact reads_of_ignored hs (isApart_of_skips h.1.2) fun _ _ => h.1.1

theorem Leads.reads {n : Nat} (h : Leads n s t) (hcomment : s.comment = false) : Reads n s t :=
  ⟨h.pos, fun _ ht => (Bool.eq_false_iff.1 (h.comment.trans hcomment) ht).elim, h.fits, h.moves⟩

theorem advance_reads {c : Char} (hs : s.Fits) (hmode : s.mode.isApart = false)
    (h : s.advance c = .ok t) : Reads 1 s t := by
  unfold advance at h
  split at h
  next hcomment =>
    cases h
    exact reads_of_ignored hs hmode fun h _ => h hcomment
  next hcomment =>
    have hcomment : s.comment = false := Bool.eq_false_iff.2 hcomment
    split at h
    next hskips =>
      cases h
      exact reads_skip hs hskips
    next =>
      obtain ⟨settled, hsettled, h⟩ := bind_eq_ok.1 h
      have settles := settle_settles hs hmode hsettled
      split at h
      next hskips =>
        cases h
        exact (settles.reads hcomment).trans (reads_skip settles.fits hskips)
      next =>
        obtain ⟨again, hagain, h⟩ := bind_eq_ok.1 h
        have settles' := settle_settles settles.fits (isApart_of_takes settles.takes) hagain
        have taken := take_leads settles'.fits settles'.takes h
        exact ((settles.trans settles'.toLeads).trans taken).reads hcomment

/-- Whether a mode is the beginning of what may be an ASCII class. -/
def isAsciiName : Mode → Bool
  | .asciiName .. => true
  | _ => false

theorem advanceDash_reads {c : Char} (hs : s.Fits) (hmode : isAsciiName s.mode = false)
    (h : s.advanceDash c = .ok t) : Reads 1 s t := by
  unfold advanceDash at h
  split at h
  next atom start blank hash hdash =>
    have hb : s.brackets ≠ [] := by
      rw [Fits, hdash] at hs
      exact hs
    have plain : s.mode.Plain := hdash ▸ ⟨rfl, fun _ => rfl⟩
    split at h
    next hskips =>
      cases h
      simp only [Bool.and_eq_true] at hskips
      refine ⟨rfl, fun _ _ => hskips.1, hb, .single ?_⟩
      have := Move.later (o := s.outline) (s.pos + 1)
        (Nat.le_succ_of_le (Nat.le_of_eq (plain.front _)))
      simp only [outline, plain.held] at this ⊢
      exact this
    next =>
      obtain ⟨settled, hsettled, h⟩ := bind_eq_ok.1 h
      obtain ⟨leads, hapart, hverbose⟩ := settleDash_leads plain hb hsettled
      have reads : Reads 0 s settled :=
        ⟨leads.pos, fun hs => by rwa [leads.comment, hverbose], leads.fits, leads.moves⟩
      exact reads.trans (advance_reads leads.fits hapart h)
  next hdash =>
    refine advance_reads hs ?_ h
    cases hm : s.mode with
    | dash atom start blank hash => exact (hdash _ _ _ _ hm).elim
    | asciiName => rw [hm] at hmode; cases hmode
    | _ => rfl

/-! ### ASCII classes -/

/-- Whether a character may stand in the form of an ASCII class, before its end. -/
def isClassChar (c : Char) : Bool := c == ':' || c == '^' || ('a' ≤ c && c ≤ 'z')

theorem isClassChar_of_mem {text : List Char} (h : beginsAsciiClass text)
    (hnone : asciiClass? text = none) {c : Char} (hc : c ∈ text) : isClassChar c := by
  obtain ⟨form, hform, hprefix⟩ := List.any_eq_true.1 h
  have hne : text ≠ form.2 := by
    rintro rfl
    have := List.find?_eq_none.1 (Option.map_eq_none_iff.1 hnone) form hform
    simp at this
  have proper : text <+: form.2.dropLast := by
    obtain ⟨rest, hrest⟩ := List.isPrefixOf_iff_prefix.1 hprefix
    have : rest ≠ [] := by
      rintro rfl
      exact hne (by simpa using hrest)
    rw [← hrest, List.dropLast_append_of_ne_nil this]
    exact List.prefix_append ..
  have all : asciiForms.all (fun form => form.2.dropLast.all isClassChar) := by decide
  exact List.all_eq_true.1 (List.all_eq_true.1 all form hform) c (proper.subset hc)

/-- Whether a mode is one of those in which the beginning of what is no ASCII class is read. -/
def isRereading : Mode → Bool
  | .bracketOpen .. | .afterAtom _ => true
  | _ => false

/-- A character of the form of an ASCII class has no other meaning in a bracket. -/
theorem plain_of_isClassChar {c : Char} (h : isClassChar c) :
    Unicode.isBlank c = false ∧ (c == '#') = false ∧ c ≠ '[' ∧ c ≠ ']' ∧ c ≠ '-' ∧ c ≠ '\\' ∧
      (bracketOp? c).isSome = false := by
  have range : c.toNat = 58 ∨ c.toNat = 94 ∨ 97 ≤ c.toNat ∧ c.toNat ≤ 122 := by
    simp only [isClassChar, Bool.or_eq_true, beq_iff_eq, Bool.and_eq_true, decide_eq_true_eq] at h
    rcases h with (rfl | rfl) | h
    · exact .inl rfl
    · exact .inr (.inl rfl)
    · exact .inr (.inr h)
  have ne : ∀ d : Char, d.toNat ≠ 58 → d.toNat ≠ 94 → d.toNat < 97 ∨ 122 < d.toNat → c ≠ d := by
    rintro d h1 h2 h3 rfl
    omega
  refine ⟨?_, by simpa using ne '#' (by decide) (by decide) (by decide),
    ne '[' (by decide) (by decide) (by decide), ne ']' (by decide) (by decide) (by decide),
    ne '-' (by decide) (by decide) (by decide), ne '\\' (by decide) (by decide) (by decide), ?_⟩
  · simp only [Unicode.isBlank, Bool.or_eq_false_iff, Bool.and_eq_false_iff,
      decide_eq_false_iff_not]
    omega
  · have h1 := ne '&' (by decide) (by decide) (by decide)
    have h2 := ne '-' (by decide) (by decide) (by decide)
    have h3 := ne '~' (by decide) (by decide) (by decide)
    unfold bracketOp?
    split <;> simp_all

theorem isRereading_feedBracket {c : Char} (h : isClassChar c) :
    isRereading (s.feedBracket c).mode := by
  obtain ⟨-, -, h1, h2, -, h3, h4⟩ := plain_of_isClassChar h
  simp only [feedBracket, h1, h2, h3, h4]
  rfl

/-- What is no ASCII class begins with characters that stand for themselves. -/
theorem isRereading_of_advance {c : Char} (hc : isClassChar c) (hmode : isRereading s.mode)
    (h : s.advance c = .ok t) : isRereading t.mode := by
  obtain ⟨hblank, hhash, -, -, hdash, -, -⟩ := plain_of_isClassChar hc
  have skips : ∀ u : Reader, u.skips c = false := by
    intro u
    simp [skips, hblank, hhash]
  -- Where a bracket has been opened or an item has been put into it, the character is an item.
  have item : ∀ {u v : Reader}, u.mode = .bracket → u.settle (some c) = .ok v →
      v.take c = .ok t → isRereading t.mode := by
    intro u v hu hv h
    rw [settle, hu] at hv
    cases hv
    rw [take, hu] at h
    cases h
    exact isRereading_feedBracket hc
  unfold advance at h
  split at h
  · cases h
    exact hmode
  rw [skips, if_neg Bool.false_ne_true] at h
  obtain ⟨settled, hsettled, h⟩ := bind_eq_ok.1 h
  rw [skips, if_neg Bool.false_ne_true] at h
  obtain ⟨again, hagain, htake⟩ := bind_eq_ok.1 h
  unfold settle at hsettled
  cases hm : s.mode with
  | bracketOpen start negated stage union =>
      rw [hm] at hsettled
      dsimp only at hsettled
      split at hsettled
      next hopens =>
        cases hsettled
        rw [settle, hm] at hagain
        simp only [hopens, if_true] at hagain
        cases hagain
        rw [take, hm] at htake
        cases htake
        unfold feedBracketOpen
        split <;> rfl
      next =>
        cases hsettled
        exact item rfl hagain htake
  | afterAtom atom =>
      rw [hm] at hsettled
      simp only [Option.some.injEq, hdash, decide_false, Option.isNone_some, Bool.or_false,
        Bool.false_eq_true, if_false] at hsettled
      obtain ⟨b, -, hsettled⟩ := bind_eq_ok.1 hsettled
      cases hsettled
      exact item (mode_pushBracket ..) hagain htake
  | _ =>
      rw [hm] at hmode
      cases hmode

theorem isAsciiName_of_isRereading {mode : Mode} (h : isRereading mode) :
    isAsciiName mode = false := by
  cases mode with
  | asciiName => cases h
  | _ => rfl

/-- What was collected of what is no ASCII class is read after all. -/
theorem foldlM_advanceDash_reads {seen : List Char} (hs : s.Fits) (hmode : isRereading s.mode)
    (hseen : ∀ c ∈ seen, isClassChar c) (h : seen.foldlM advanceDash s = .ok t) :
    Reads seen.length s t ∧ isRereading t.mode := by
  induction seen generalizing s with
  | nil =>
      cases h
      exact ⟨.refl hs, hmode⟩
  | cons c seen ih =>
      obtain ⟨u, hu, h⟩ := bind_eq_ok.1 h
      have reads : Reads 1 s u := advanceDash_reads hs (isAsciiName_of_isRereading hmode) hu
      have rereading : isRereading u.mode := by
        refine isRereading_of_advance (hseen c (List.mem_cons_self ..)) hmode ?_
        unfold advanceDash at hu
        split at hu
        next hdash =>
          rw [hdash] at hmode
          cases hmode
        next => exact hu
      obtain ⟨reads', rereading'⟩ :=
        ih reads.fits rereading (fun c hc => hseen c (List.mem_cons_of_mem _ hc)) h
      refine ⟨?_, rereading'⟩
      rw [List.length_cons, Nat.add_comm]
      exact reads.trans reads'

/-- **A character is read by moves.** -/
theorem feed_reads {c : Char} (hs : s.Fits) (h : s.feed c = .ok t) : Reads 1 s t := by
  unfold feed at h
  split at h
  next start seen hmode =>
    obtain ⟨pos, verbose, comment, groups, names, level, stack, brackets, _⟩ := s
    cases hmode
    obtain ⟨hb, hpos, hbegins, hnone⟩ := hs
    dsimp only at h hb hpos
    have behind : start + 1 ≤ pos := hpos ▸ Nat.le_add_right ..
    split at h
    next kind negated hclass =>
      cases h
      obtain _ | ⟨bracket, brackets⟩ := brackets
      · exact absurd rfl hb
      · exact ⟨rfl, id, List.cons_ne_nil _ _, .single (.later _ (Nat.le_succ_of_le behind))⟩
    next hclass =>
      split at h
      next hbegins =>
        cases h
        have hlength : pos + 1 = start + 1 + (seen ++ [c]).length := by
          rw [hpos, List.length_append, List.length_singleton, Nat.add_assoc]
        exact ⟨rfl, id, ⟨hb, hlength, hbegins, hclass⟩, .refl⟩
      next =>
        simp only [reread, List.foldlM_append] at h
        obtain ⟨u, hu, h⟩ := bind_eq_ok.1 h
        obtain ⟨reads, rereading⟩ := foldlM_advanceDash_reads (s := ⟨start + 1, verbose, comment,
          groups, names, level, stack, brackets, .bracketOpen ..⟩) trivial rfl
          (fun c hc => isClassChar_of_mem hbegins hnone hc) hu
        obtain ⟨v, hv, h⟩ := bind_eq_ok.1 h
        cases h
        have last := advanceDash_reads reads.fits (isAsciiName_of_isRereading rereading) hv
        have whole := reads.trans last
        have hlength : t.pos = pos + 1 := by rw [whole.pos, hpos, Nat.add_assoc (start + 1)]
        exact ⟨hlength, whole.comment, whole.fits, whole.moves⟩
  next hmode =>
    refine advanceDash_reads hs ?_ h
    cases hm : s.mode with
    | asciiName start seen => exact (hmode _ _ hm).elim
    | _ => rfl

/-- **A text is read by moves.** -/
theorem feedAll_reads {text : List Char} (hs : s.Fits) (h : s.feedAll text = .ok t) :
    Reads text.length s t := by
  induction text generalizing s with
  | nil =>
      cases h
      exact .refl hs
  | cons c text ih =>
      obtain ⟨u, hu, h⟩ := bind_eq_ok.1 h
      have reads := feed_reads hs hu
      rw [List.length_cons, Nat.add_comm]
      exact reads.trans (ih reads.fits h)

/-- A reader that has read nothing can be in its mode. -/
theorem fits_start : ({} : Reader).Fits := rfl

end Reader

end ParamTemplate.Regex
