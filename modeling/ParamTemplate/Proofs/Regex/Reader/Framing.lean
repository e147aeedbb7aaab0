/-
**The reader does the same in a frame.**

A character that the reader takes in on its own it takes in the same way in a frame, with the state
in the frame as the result.  The proof goes through the operations of the reader one by one; each
of them looks at characters, at the order of what is open and at what was read of the innermost
construction, and never at a place or at the number of a group.

The exception are names.  A name that is taken by the frame is refused, so that what succeeds alone
may fail in a frame with names (`Regex.Frame.Admits`), but only if the text takes one of them.

Main results:

* `Regex.Reader.feed_on` — **a character is taken in alike on its own and in a frame**;
* `Regex.Reader.feedAll_on` — so is a text;
* `Regex.Reader.feedAll_on_of_names` — **a text that takes other names than the frame is read in the
  frame.**
-/

import ParamTemplate.Proofs.Regex.Reader.Numbering

set_option autoImplicit false

namespace ParamTemplate.Regex

variable {f : Frame}

/-! ### Repetitions -/

theorem Number.value_on (number : Number) (stop : Position) :
    (number.on f).value (f.offset + stop) = (number.value stop).mapError (·.on f) := by
  cases number with
  | blank => rfl
  | digits start ds =>
      simp only [value, on]
      split <;> rfl

theorem Number.continues_on (number : Number) (c : Char) :
    (number.on f).continues c = number.continues c := by
  cases number <;> rfl

theorem Number.feed_on (number : Number) (pos : Position) (c : Char) :
    (number.on f).feed (f.offset + pos) c = (number.feed pos c).on f := by
  unfold feed
  cases number <;> split <;> rfl

theorem mapError_eq_ok {ε ε' α : Type} {g : ε → ε'} {x : Except ε α} {a : α} (h : x = .ok a) :
    x.mapError g = .ok a := by
  rw [h]
  rfl

namespace Reader

variable {s t : Reader}

/-- A choice succeeds alike in a frame if both of its branches do. -/
theorem ite_on {condition : Prop} [Decidable condition] {x y x' y' : Except Complaint Reader}
    (hx : x = .ok t → x' = .ok (t.on f)) (hy : y = .ok t → y' = .ok (t.on f))
    (h : (if condition then x else y) = .ok t) :
    (if condition then x' else y') = .ok (t.on f) := by
  split at h
  · exact (if_pos ‹_›).trans (hx h)
  · exact (if_neg ‹_›).trans (hy h)

theorem refuse_on {fault : Fault} {span : Span} {earlier : Option Span}
    {x : Except Complaint Reader} (h : refuse fault span earlier = .ok t) : x = .ok (t.on f) := by
  cases h

theorem ok_pass_on {mode : Mode} (h : Except.ok (s.pass mode) = (.ok t : Except Complaint Reader)) :
    .ok ((s.on f).pass (mode.on f)) = (.ok (t.on f) : Except Complaint Reader) := by
  cases h
  rfl

theorem takeOperand_on {item : Pattern} (h : s.takeOperand = .ok (item, t)) :
    (s.on f).takeOperand = .ok (item.relabel f.relabelling, t.on f) := by
  unfold takeOperand at h
  split at h
  next item' items hitems =>
    split at h
    next hrepeatable =>
      cases h
      obtain ⟨rest, hrest, hlevel⟩ := Level.items_on (f := f) s.stack.isEmpty hitems
      have hlevel' : (s.on f).level.items = item.relabel f.relabelling :: rest := hrest
      simp only [takeOperand, hlevel', Pattern.isRepeatable_relabel, hrepeatable, if_true]
      simp only [on] at hlevel ⊢
      rw [hlevel]
    · cases h
  · cases h

theorem pushRepetition_on (s : Reader) (body : Pattern) (min : Nat) (max : Option Nat)
    (greedy : Bool) :
    (s.on f).pushRepetition (body.relabel f.relabelling) min max greedy =
      (s.pushRepetition body min max greedy).on f := by
  rw [pushRepetition, Pattern.span_relabel]
  exact push_on s (.repetition (body.span.upTo s.pos) min max greedy body)

theorem pushCounted_on {counted : Counted} {min : Nat} {max : Option Nat} {greedy : Bool}
    (h : s.pushCounted counted min max greedy = .ok t) :
    (s.on f).pushCounted (counted.on f) min max greedy = .ok (t.on f) := by
  unfold pushCounted at h ⊢
  cases max with
  | none =>
      cases h
      exact congrArg Except.ok (pushRepetition_on ..)
  | some n =>
      simp only at h ⊢
      split at h
      · cases h
        exact (if_pos ‹_›).trans (congrArg Except.ok (pushRepetition_on ..))
      · cases h

theorem startRepetition_on {min : Nat} {max : Option Nat}
    (h : s.startRepetition min max = .ok t) :
    (s.on f).startRepetition min max = .ok (t.on f) := by
  obtain ⟨⟨body, rest⟩, htake, h⟩ := bind_eq_ok.1 h
  cases h
  rw [startRepetition, takeOperand_on htake]
  rfl

theorem startCount_on (h : s.startCount = .ok t) : (s.on f).startCount = .ok (t.on f) := by
  obtain ⟨⟨body, rest⟩, htake, h⟩ := bind_eq_ok.1 h
  cases h
  simp only [startCount, takeOperand_on htake]
  rfl

theorem feedAfterMinimum_on {counted : Counted} {min : Except Complaint Nat} {c : Char}
    (h : s.feedAfterMinimum counted min c = .ok t) :
    (s.on f).feedAfterMinimum (counted.on f) (min.mapError (·.on f)) c = .ok (t.on f) := by
  refine ite_on ok_pass_on (ite_on ok_pass_on fun h => ?_) h
  obtain ⟨n, hmin, h⟩ := bind_eq_ok.1 h
  rw [mapError_eq_ok hmin]
  exact ite_on ok_pass_on refuse_on h

theorem feedAfterMaximum_on {counted : Counted} {min max : Nat} {c : Char}
    (h : s.feedAfterMaximum counted min max c = .ok t) :
    (s.on f).feedAfterMaximum (counted.on f) min max c = .ok (t.on f) :=
  ite_on ok_pass_on (ite_on ok_pass_on refuse_on) h

/-! ### Escapes -/

theorem feedEscape_on {start : Position} {c : Char} (h : s.feedEscape start c = .ok t) :
    (s.on f).feedEscape (f.offset + start) c = .ok (t.on f) := by
  refine ite_on refuse_on (ite_on ok_pass_on (ite_on ok_pass_on (ite_on ok_pass_on
    (ite_on ok_pass_on (ite_on ok_pass_on fun h => ?_))))) h
  cases hshort : shortClass? c with
  | some short =>
      rw [hshort] at h
      exact complete_on h
  | none =>
      rw [hshort] at h
      cases hcontrol : controlChar? c with
      | some char =>
          rw [hcontrol] at h
          exact complete_on h
      | none =>
          rw [hcontrol] at h
          cases hassertion : assertion? c with
          | some kind =>
              rw [hassertion] at h
              exact complete_on h
          | none =>
              rw [hassertion] at h
              exact ite_on complete_on refuse_on h

theorem feedHex_on {start : Position} {width : Nat} {c : Char}
    (h : s.feedHex start width c = .ok t) :
    (s.on f).feedHex (f.offset + start) width c = .ok (t.on f) :=
  ite_on ok_pass_on (ite_on ok_pass_on refuse_on) h

theorem feedHexFixed_on {start digitsStart : Position} {width : Nat} {digits : List Char} {c : Char}
    (h : s.feedHexFixed start digitsStart width digits c = .ok t) :
    (s.on f).feedHexFixed (f.offset + start) (f.offset + digitsStart) width digits c =
      .ok (t.on f) :=
  ite_on (ite_on ok_pass_on ok_pass_on) refuse_on h

theorem finishHexFixed_on {start digitsStart : Position} {width : Nat} {digits : List Char}
    (h : s.finishHexFixed start digitsStart width digits = .ok t) :
    (s.on f).finishHexFixed (f.offset + start) (f.offset + digitsStart) width digits =
      .ok (t.on f) := by
  obtain ⟨char, hchar, h⟩ := finishHexFixed_eq_ok_iff.1 h
  exact finishHexFixed_eq_ok_iff.2 ⟨char, hchar, deliver_on h⟩

theorem feedHexBraced_on {start brace digitsStart : Position} {digits : List Char} {c : Char}
    (h : s.feedHexBraced start brace digitsStart digits c = .ok t) :
    (s.on f).feedHexBraced (f.offset + start) (f.offset + brace) (f.offset + digitsStart) digits c =
      .ok (t.on f) :=
  ite_on ok_pass_on (ite_on ok_pass_on refuse_on) h

theorem finishHexBraced_on {start brace digitsStart digitsStop : Position} {digits : List Char}
    (h : s.finishHexBraced start brace digitsStart digitsStop digits = .ok t) :
    (s.on f).finishHexBraced (f.offset + start) (f.offset + brace) (f.offset + digitsStart)
      (f.offset + digitsStop) digits = .ok (t.on f) := by
  obtain ⟨char, hempty, hchar, h⟩ := finishHexBraced_eq_ok_iff.1 h
  exact finishHexBraced_eq_ok_iff.2 ⟨char, hempty, hchar, deliver_on h⟩

theorem feedProperty_on {start : Position} {negated : Bool} {c : Char}
    (h : s.feedProperty start negated c = .ok t) :
    (s.on f).feedProperty (f.offset + start) negated c = .ok (t.on f) :=
  ite_on ok_pass_on (ite_on refuse_on ok_pass_on) h

theorem feedPropertyName_on {start : Position} {negated : Bool} {name : List Char} {c : Char}
    (h : s.feedPropertyName start negated name c = .ok t) :
    (s.on f).feedPropertyName (f.offset + start) negated name c = .ok (t.on f) :=
  ite_on complete_on ok_pass_on h

theorem boundaryCount_on {span : Span} {brace : Position}
    (h : s.boundaryCount span brace = .ok t) :
    (s.on f).boundaryCount (span.shift f.offset) (f.offset + brace) = .ok (t.on f) := by
  obtain ⟨pos, verbose, comment, groups, names, level, stack, brackets, mode⟩ := s
  cases brackets with
  | nil =>
      cases h
      rfl
  | cons bracket brackets =>
      obtain ⟨span', negated, pending, union, rangeStart⟩ := bracket
      cases rangeStart with
      | none => cases h
      | some lo => exact closeRange_on h

theorem feedBoundaryName_on {span : Span} {brace nameStart : Position} {name : List Char} {c : Char}
    (h : s.feedBoundaryName span brace nameStart name c = .ok t) :
    (s.on f).feedBoundaryName (span.shift f.offset) (f.offset + brace) (f.offset + nameStart) name
      c = .ok (t.on f) := by
  refine ite_on ok_pass_on (ite_on (fun h => ?_) refuse_on) h
  cases hname : namedBoundary? name.reverse with
  | some kind =>
      rw [hname] at h
      exact complete_on h
  | none =>
      rw [hname] at h
      cases h

/-! ### Groups -/

theorem openNumbered_on (s : Reader) (span : Span) :
    (s.on f).openNumbered (span.shift f.offset) = (s.openNumbered span).on f := rfl

theorem closeGroup_on (h : s.closeGroup = .ok t) : (s.on f).closeGroup = .ok (t.on f) := by
  obtain ⟨pos, verbose, comment, groups, names, level, stack, brackets, mode⟩ := s
  cases stack with
  | nil => cases h
  | cons group stack =>
      cases h
      have item := Level.push_on (f := f) stack.isEmpty group.outer
        (.group ⟨group.span.start, pos + 1⟩ group.kind (level.close pos))
      simp only [on, ← item, Pattern.relabel, ← Level.close_moved]
      rfl

theorem bar_on (s : Reader) : (s.on f).bar = s.bar.on f := by
  have level := Level.bar_on (f := f) s.stack.isEmpty s.level s.pos (s.pos + 1)
  simp only [bar, on, ← level]
  rfl

theorem feedGroupQuestion_on {span : Span} {c : Char} (h : s.feedGroupQuestion span c = .ok t) :
    (s.on f).feedGroupQuestion (span.shift f.offset) c = .ok (t.on f) :=
  ite_on refuse_on (ite_on ok_pass_on ok_pass_on) h

theorem feedFlagItem_on {span : Span} {inner : Position} {items : List (FlagItem × Span)} {c : Char}
    (h : s.feedFlagItem span inner items c = .ok t) :
    (s.on f).feedFlagItem (span.shift f.offset) (f.offset + inner)
      (items.map fun entry => (entry.1, entry.2.shift f.offset)) c = .ok (t.on f) := by
  unfold feedFlagItem at h ⊢
  cases hitem : flagItem? c with
  | none =>
      rw [hitem] at h
      cases h
  | some item =>
      rw [hitem] at h
      simp only [List.find?_map, Function.comp_def] at h ⊢
      cases hfind : items.find? fun entry => entry.1 = item with
      | some entry =>
          rw [hfind] at h
          cases h
      | none =>
          rw [hfind] at h
          cases h
          rfl

theorem finishFlags_on {span : Span} {inner : Position} {items : List FlagItem} {c : Char}
    (h : s.finishFlags span inner items c = .ok t) :
    (s.on f).finishFlags (span.shift f.offset) (f.offset + inner) items c = .ok (t.on f) := by
  refine ite_on (fun h => ?_) (ite_on refuse_on fun h => ?_) h
  · cases h
    rfl
  · cases h
    exact congrArg Except.ok (push_on
      { s with pos := s.pos + 1, verbose := (flagState .verbose items).getD s.verbose }
      (.flags (span.upTo (s.pos + 1)) items))

theorem feedGroupFlags_on {span : Span} {inner : Position} {items : List (FlagItem × Span)}
    {c : Char} (h : s.feedGroupFlags span inner items c = .ok t) :
    (s.on f).feedGroupFlags (span.shift f.offset) (f.offset + inner)
      (items.map fun entry => (entry.1, entry.2.shift f.offset)) c = .ok (t.on f) := by
  have reversed : ∀ items : List (FlagItem × Span),
      (items.map fun entry => (entry.1, entry.2.shift f.offset)).reverse.map Prod.fst =
        items.reverse.map Prod.fst := by
    intro items
    rw [← List.map_reverse, List.map_map]
    rfl
  refine ite_on (fun h => ?_) feedFlagItem_on h
  match items, h with
  | (.negation, place) :: _, h => cases h
  | [], h => exact finishFlags_on h
  | (.flag flag, place) :: items, h =>
      rw [← reversed] at h
      exact finishFlags_on (f := f) h

/-! ### Brackets -/

theorem feedBracketOpen_on (s : Reader) (start : Position) (negated : Bool) (union : BracketUnion)
    (c : Char) :
    (s.on f).feedBracketOpen (f.offset + start) negated (union.on f) c =
      (s.feedBracketOpen start negated union c).on f := by
  unfold feedBracketOpen
  split
  · rfl
  · have item := BracketUnion.push_on (f := f) union (.literal { span := .ofChar s.pos, char := c })
    simp only [← pass_on, Mode.on, ← item]
    rfl

theorem finishBracketOpen_on (s : Reader) (start : Position) (negated : Bool)
    (union : BracketUnion) :
    (s.on f).finishBracketOpen (f.offset + start) negated (union.on f) =
      (s.finishBracketOpen start negated union).on f := by
  obtain ⟨span, items⟩ := union
  cases items <;> rfl

theorem closeBracket_on (s : Reader) : (s.on f).closeBracket = s.closeBracket.on f := by
  obtain ⟨pos, verbose, comment, groups, names, level, stack, brackets, mode⟩ := s
  cases brackets with
  | nil => rfl
  | cons bracket brackets =>
      have content := OpenBracket.content_on (f := f) bracket
      cases brackets with
      | nil =>
          have item := push_on (f := f)
            { pos := pos + 1, verbose, comment, groups, names, level, stack }
            (.bracket ⟨bracket.span.start, pos + 1⟩ bracket.negated bracket.content)
          simp only [Pattern.relabel, ← content] at item
          exact item
      | cons outer brackets =>
          have item := pushBracket_on (f := f)
            { pos := pos + 1, verbose, comment, groups, names, level, stack,
              brackets := outer :: brackets }
            (.nested ⟨bracket.span.start, pos + 1⟩ bracket.negated bracket.content)
          simp only [Bracket.relabel, ← content] at item
          exact item

theorem combineBracket_on (s : Reader) (op : BracketOp) :
    (s.on f).combineBracket op = (s.combineBracket op).on f := by
  obtain ⟨pos, verbose, comment, groups, names, level, stack, brackets, mode⟩ := s
  cases brackets with
  | nil => rfl
  | cons bracket brackets =>
      have content := OpenBracket.content_on (f := f) bracket
      simp only [combineBracket, on, List.map_cons, content]
      rfl

theorem feedBracket_on (s : Reader) (c : Char) :
    (s.on f).feedBracket c = (s.feedBracket c).on f := by
  unfold feedBracket
  split
  · rfl
  · split
    · exact closeBracket_on s
    · split
      · rfl
      · split <;> rfl

theorem feedTwin_on (s : Reader) (twin : Char) :
    (s.on f).feedTwin twin = (s.feedTwin twin).on f := by
  unfold feedTwin
  cases bracketOp? twin with
  | none => rfl
  | some op => exact combineBracket_on s op

theorem openRange_on (s : Reader) (lo : Atom) :
    (s.on f).openRange (lo.on f) = (s.openRange lo).on f := by
  obtain ⟨pos, verbose, comment, groups, names, level, stack, brackets, mode⟩ := s
  cases brackets <;> rfl

theorem feedRangeEnd_on {lo : Atom} {c : Char} (h : s.feedRangeEnd lo c = .ok t) :
    (s.on f).feedRangeEnd (lo.on f) c = .ok (t.on f) := by
  refine ite_on (fun h => ?_) (fun h => ?_) h
  · cases h
    rw [openRange_on]
    rfl
  · exact closeRange_on (f := f) h

theorem settleDash_on {atom : Atom} {start : Position} {adjacent : Bool} {c : Char}
    (h : s.settleDash atom start adjacent c = .ok t) :
    (s.on f).settleDash (atom.on f) (f.offset + start) adjacent c = .ok (t.on f) := by
  refine ite_on (fun h => ?_) (fun h => ?_) h
  · obtain ⟨item, hitem, h⟩ := bind_eq_ok.1 h
    rw [Atom.toBracket_on hitem]
    refine ite_on (fun h => ?_) (fun h => ?_) h
    · cases h
      rw [pushBracket_on]
      rfl
    · cases h
      rw [pushBracket_on]
      rfl
  · cases h
    rfl

/-! ### The machine -/

theorem ok_on (h : Except.ok s = (.ok t : Except Complaint Reader)) :
    .ok (s.on f) = (.ok (t.on f) : Except Complaint Reader) := by
  cases h
  rfl

/-- What a character shows to be over is ended alike in a frame. -/
theorem settle_on {next : Option Char} (h : s.settle next = .ok t) :
    (s.on f).settle next = .ok (t.on f) := by
  unfold settle at h ⊢
  rw [mode_on]
  generalize s.mode = mode at h ⊢
  cases mode with
  | afterOperator body min max =>
      refine ite_on ok_on (fun h => ?_) h
      cases h
      exact congrArg Except.ok (pushRepetition_on ..)
  | minimum counted number =>
      cases next with
      | none => cases h
      | some c =>
          simp only [Mode.on, Number.continues_on] at h ⊢
          refine ite_on ok_on (fun h => ?_) h
          cases h
          rw [pos_on, Number.value_on]
          rfl
  | afterMinimum counted min =>
      exact ite_on refuse_on ok_on h
  | afterComma counted min =>
      cases next with
      | none => cases h
      | some c =>
          refine ite_on ok_on (fun h => ?_) h
          obtain ⟨n, hmin, h⟩ := bind_eq_ok.1 h
          rw [mapError_eq_ok hmin]
          cases h
          rfl
  | maximum counted min number =>
      have continues : next.map (number.on f).continues = next.map number.continues := by
        congr 1
        funext c
        exact Number.continues_on number c
      simp only [Mode.on, continues] at h ⊢
      refine ite_on ok_on (fun h => ?_) h
      obtain ⟨n, hvalue, h⟩ := bind_eq_ok.1 h
      rw [pos_on, Number.value_on, mapError_eq_ok hvalue]
      cases h
      rfl
  | afterMaximum counted min max =>
      exact ite_on refuse_on ok_on h
  | afterCount counted min max =>
      exact ite_on ok_on pushCounted_on h
  | afterHexFixed start digitsStart width digits =>
      exact finishHexFixed_on h
  | afterHexBraced start brace digitsStart digitsStop digits =>
      exact finishHexBraced_on h
  | afterPropertyLetter start negated letter =>
      exact deliver_on h
  | afterBoundary span =>
      exact ite_on ok_on deliver_on h
  | boundaryBrace span brace =>
      cases next with
      | none => cases h
      | some c => exact ite_on ok_on boundaryCount_on h
  | groupOpen span =>
      refine ite_on ok_on (fun h => ?_) h
      cases h
      exact congrArg Except.ok (openNumbered_on s span)
  | groupQuestion span inner =>
      cases next with
      | none => exact ok_on h
      | some c =>
          refine ite_on ok_on (fun h => ?_) h
          cases h
          rfl
  | groupAngle span =>
      cases next with
      | none => exact ok_on h
      | some c =>
          refine ite_on ok_on (fun h => ?_) h
          cases h
          rfl
  | bracketOpen start negated stage union =>
      cases next with
      | none => exact ok_on h
      | some c =>
          refine ite_on ok_on (fun h => ?_) h
          cases h
          exact congrArg Except.ok (finishBracketOpen_on s start negated union)
  | twin char start =>
      refine ite_on ok_on (fun h => ?_) h
      cases h
      rfl
  | afterAtom atom =>
      refine ite_on ok_on (fun h => ?_) h
      obtain ⟨item, hitem, h⟩ := bind_eq_ok.1 h
      rw [Atom.toBracket_on hitem]
      cases h
      exact congrArg Except.ok (pushBracket_on s item)
  | main | escape | hex | hexFixed | hexBraced | property | propertyName | boundaryName
  | groupLetter | groupName | groupFlags | asciiName | bracket | dash | rangeEnd =>
      exact ok_on h

theorem takeMain_on {c : Char} (h : s.takeMain c = .ok t) :
    (s.on f).takeMain c = .ok (t.on f) := by
  unfold takeMain at h
  split at h
  · exact ok_pass_on h
  · exact closeGroup_on h
  · cases h
    exact congrArg Except.ok (bar_on s)
  · exact ok_pass_on h
  · exact startRepetition_on h
  · exact startRepetition_on h
  · exact startRepetition_on h
  · exact startCount_on h
  · exact ok_pass_on h
  · exact complete_on h
  · exact complete_on h
  · exact complete_on h
  · unfold takeMain
    split
    all_goals first | contradiction | exact complete_on h

end Reader

/-! ### Names -/

/-- Whether a state has taken a name that is taken by the frame. -/
def Frame.Clashes (f : Frame) (t : Reader) : Prop :=
  ∃ name ∈ t.names.map Prod.fst, name ∈ f.names.map Prod.fst

/-- **What a step may come to in a frame** if the same step comes to a state on its own: to that
state in the frame, or to nothing because a name is taken. -/
def Frame.Admits (f : Frame) (r : Except Complaint Reader) (t : Reader) : Prop :=
  r = .ok (t.on f) ∨ f.Clashes t ∧ ∀ u, r ≠ .ok u

namespace Frame.Admits

variable {r : Except Complaint Reader} {t u : Reader} {g : Reader → Except Complaint Reader}

/-- Two steps, of which the first one takes no name. -/
theorem of_ok (h : r = .ok (t.on f)) (h' : f.Admits (g (t.on f)) u) : f.Admits (r >>= g) u := by
  rw [h]
  exact h'

/-- Two steps: a name that the first one takes stays taken. -/
theorem bind (hnames : ∀ name ∈ t.names.map Prod.fst, name ∈ u.names.map Prod.fst)
    (h : f.Admits r t) (h' : f.Admits (g (t.on f)) u) : f.Admits (r >>= g) u := by
  rcases h with rfl | ⟨⟨name, hname, htaken⟩, herror⟩
  · exact h'
  · refine .inr ⟨⟨name, hnames name hname, htaken⟩, fun u hu => ?_⟩
    obtain ⟨a, ha, _⟩ := bind_eq_ok.1 hu
    exact herror a ha

/-- What succeeds in a frame comes to the state in the frame. -/
theorem eq_of_ok (h : f.Admits r t) (hu : r = .ok u) : u = t.on f := by
  rcases h with rfl | ⟨_, herror⟩
  · cases hu
    rfl
  · exact absurd hu (herror u)

/-- With other names a frame admits no failure. -/
theorem eq_of_not_clashes (h : f.Admits r t) (hnames : ¬f.Clashes t) : r = .ok (t.on f) :=
  h.resolve_right fun h => hnames h.1

/-- Without names a frame admits no failure. -/
theorem eq_of_names (h : f.Admits r t) (hnames : f.names = []) : r = .ok (t.on f) :=
  h.eq_of_not_clashes fun ⟨_, _, htaken⟩ => by
    rw [hnames] at htaken
    cases htaken

end Frame.Admits

namespace Reader

variable {s t : Reader}

theorem feedGroupName_on {span : Span} {start : Position} {name : List Char} {c : Char}
    (h : s.feedGroupName span start name c = .ok t) :
    f.Admits ((s.on f).feedGroupName (span.shift f.offset) (f.offset + start) name c) t := by
  unfold feedGroupName at h ⊢
  split at h
  next hclose =>
    rw [if_pos hclose]
    split at h
    · cases h
    · rw [if_neg ‹_›]
      split at h
      · cases h
      next hnone =>
        have names : (s.on f).names.find? (fun entry => entry.1 = name.reverse) =
            f.names.find? fun entry => entry.1 = name.reverse := by
          simp only [on, List.find?_append, List.find?_map, Function.comp_def]
          rw [hnone]
          rfl
        simp only [names]
        -- The name is not taken in the text, but it may be taken in the frame.
        cases hfind : f.names.find? fun entry => entry.1 = name.reverse with
        | some entry =>
            cases h
            have htaken : entry.1 = name.reverse := by simpa using List.find?_some hfind
            refine .inr ⟨⟨name.reverse, List.mem_cons_self .., ?_⟩, fun u hu => by cases hu⟩
            exact List.mem_map.2 ⟨entry, List.mem_of_find?_eq_some hfind, htaken⟩
        | none =>
            cases h
            exact .inl rfl
  next hclose =>
    rw [if_neg hclose]
    exact .inl (ite_on ok_pass_on refuse_on h)

/-- A character is taken in alike in a frame. -/
theorem take_on {c : Char} (h : s.take c = .ok t) : f.Admits ((s.on f).take c) t := by
  unfold take at h ⊢
  rw [mode_on]
  generalize s.mode = mode at h ⊢
  cases mode with
  | groupName span start name =>
      exact feedGroupName_on h
  | main =>
      exact .inl (takeMain_on h)
  | afterOperator body min max =>
      cases h
      exact .inl (congrArg Except.ok
        (pushRepetition_on { s with pos := s.pos + 1 } body min max false))
  | minimum counted number =>
      cases h
      simp only [Mode.on, pos_on, Number.feed_on]
      exact .inl rfl
  | afterMinimum counted min =>
      exact .inl (feedAfterMinimum_on h)
  | afterComma counted min =>
      obtain ⟨n, hmin, h⟩ := bind_eq_ok.1 h
      cases h
      simp only [Mode.on, mapError_eq_ok hmin]
      exact .inl rfl
  | maximum counted min number =>
      cases h
      simp only [Mode.on, pos_on, Number.feed_on]
      exact .inl rfl
  | afterMaximum counted min max =>
      exact .inl (feedAfterMaximum_on h)
  | afterCount counted min max =>
      exact .inl (pushCounted_on (s := { s with pos := s.pos + 1 }) h)
  | escape start =>
      exact .inl (feedEscape_on h)
  | hex start width =>
      exact .inl (feedHex_on h)
  | hexFixed start digitsStart width digits =>
      exact .inl (feedHexFixed_on h)
  | hexBraced start brace digitsStart digits =>
      exact .inl (feedHexBraced_on h)
  | property start negated =>
      exact .inl (feedProperty_on h)
  | propertyName start negated name =>
      exact .inl (feedPropertyName_on h)
  | boundaryName span brace nameStart name =>
      exact .inl (feedBoundaryName_on h)
  | groupQuestion span inner =>
      exact .inl (feedGroupQuestion_on h)
  | groupAngle span =>
      cases h
  | groupLetter span letter =>
      exact .inl (ite_on ok_pass_on refuse_on h)
  | groupFlags span inner items =>
      exact .inl (feedGroupFlags_on h)
  | bracketOpen start negated stage union =>
      cases h
      exact .inl (congrArg Except.ok (feedBracketOpen_on s start negated union c))
  | bracket =>
      cases h
      exact .inl (congrArg Except.ok (feedBracket_on s c))
  | twin char start =>
      cases h
      exact .inl (congrArg Except.ok (feedTwin_on s char))
  | rangeEnd atom =>
      exact .inl (feedRangeEnd_on h)
  | afterBoundary | boundaryBrace | groupOpen | afterAtom =>
      cases h
      exact .inl rfl
  | afterHexFixed | afterHexBraced | afterPropertyLetter | asciiName | dash =>
      exact .inl (ok_on h)

theorem skips_on (s : Reader) (c : Char) : (s.on f).skips c = s.skips c := by
  unfold skips
  rw [mode_on, verbose_on]
  cases s.mode <;> rfl

theorem advance_on {c : Char} (h : s.advance c = .ok t) : f.Admits ((s.on f).advance c) t := by
  unfold advance at h ⊢
  rw [comment_on]
  split at h
  next hcomment =>
    rw [if_pos hcomment]
    cases h
    exact .inl rfl
  next hcomment =>
    rw [if_neg hcomment, skips_on]
    split at h
    next hskips =>
      rw [if_pos hskips]
      cases h
      exact .inl rfl
    next hskips =>
      rw [if_neg hskips]
      obtain ⟨settled, hsettled, h⟩ := bind_eq_ok.1 h
      refine .of_ok (settle_on hsettled) ?_
      rw [skips_on]
      split at h
      next hskips =>
        rw [if_pos hskips]
        cases h
        exact .inl rfl
      next hskips =>
        rw [if_neg hskips]
        obtain ⟨again, hagain, h⟩ := bind_eq_ok.1 h
        exact .of_ok (settle_on hagain) (take_on h)

theorem advanceDash_on {c : Char} (h : s.advanceDash c = .ok t) :
    f.Admits ((s.on f).advanceDash c) t := by
  unfold advanceDash at h ⊢
  rw [mode_on]
  generalize s.mode = mode at h ⊢
  cases mode with
  | dash atom start blank hash =>
      simp only [Mode.on] at h ⊢
      rw [verbose_on]
      split at h
      next hskips =>
        rw [if_pos hskips]
        cases h
        exact .inl rfl
      next hskips =>
        rw [if_neg hskips]
        obtain ⟨settled, hsettled, h⟩ := bind_eq_ok.1 h
        exact .of_ok (settleDash_on hsettled) (advance_on h)
  | _ =>
      exact advance_on h

/-- What is read by moves keeps the names that are taken. -/
theorem Reads.mem_names {count : Nat} (h : Reads count s t) {name : List Char}
    (hname : name ∈ s.names.map Prod.fst) : name ∈ t.names.map Prod.fst :=
  mem_names_of_moves h.moves hname

theorem foldlM_advanceDash_on {seen : List Char} (hs : s.Fits) (hmode : isRereading s.mode)
    (hseen : ∀ c ∈ seen, isClassChar c) (h : seen.foldlM advanceDash s = .ok t) :
    f.Admits (seen.foldlM advanceDash (s.on f)) t := by
  induction seen generalizing s with
  | nil =>
      cases h
      exact .inl rfl
  | cons c seen ih =>
      obtain ⟨u, hu, h⟩ := bind_eq_ok.1 h
      obtain ⟨hc, hseen⟩ := List.forall_mem_cons.1 hseen
      have first : [c].foldlM advanceDash s = .ok u := bind_eq_ok.2 ⟨u, hu, rfl⟩
      obtain ⟨reads, rereading⟩ :=
        foldlM_advanceDash_reads hs hmode (List.forall_mem_singleton.2 hc) first
      obtain ⟨rest, -⟩ := foldlM_advanceDash_reads reads.fits rereading hseen h
      exact .bind (fun _ => rest.mem_names) (advanceDash_on hu) (ih reads.fits rereading hseen h)

/-- **A character is read alike in a frame.** -/
theorem feed_on {c : Char} (hs : s.Fits) (h : s.feed c = .ok t) : f.Admits ((s.on f).feed c) t := by
  unfold feed at h ⊢
  rw [mode_on]
  cases hmode : s.mode with
  | asciiName start seen =>
      rw [hmode] at h
      simp only [Mode.on] at h ⊢
      split at h
      next kind negated hclass =>
        cases h
        exact .inl (congrArg Except.ok (pushBracket_on
          { s with pos := s.pos + 1, mode := .asciiName start seen }
          (.ascii ⟨start, s.pos + 1⟩ kind negated)))
      next hclass =>
        split at h
        next hbegins =>
          rw [if_pos hbegins]
          cases h
          exact .inl rfl
        next hbegins =>
          rw [if_neg hbegins]
          unfold Fits at hs
          rw [hmode] at hs
          obtain ⟨-, -, hprefix, hnone⟩ := hs
          -- What looked like the name of a class is read again, as the characters of a bracket.
          have hseen : ∀ d ∈ seen, isClassChar d := fun d => isClassChar_of_mem hprefix hnone
          simp only [reread, List.foldlM_append] at h ⊢
          obtain ⟨u, hu, h⟩ := bind_eq_ok.1 h
          obtain ⟨v, hv, h⟩ := bind_eq_ok.1 h
          cases h
          obtain ⟨reads, rereading⟩ := foldlM_advanceDash_reads (s := { s with
            pos := start + 1
            mode := .bracketOpen start false .opening { span := .point start } })
              trivial rfl hseen hu
          have last := advanceDash_reads reads.fits (isAsciiName_of_isRereading rereading) hv
          refine .bind (fun _ => last.mem_names) (foldlM_advanceDash_on (s := { s with
            pos := start + 1
            mode := .bracketOpen start false .opening { span := .point start } })
              trivial rfl hseen hu) ?_
          exact .bind (fun _ => id) (advanceDash_on hv) (.inl rfl)
  | _ =>
      rw [hmode] at h
      exact advanceDash_on h

/-- **A text is read alike in a frame.** -/
theorem feedAll_on {text : List Char} (hs : s.Fits) (h : s.feedAll text = .ok t) :
    f.Admits ((s.on f).feedAll text) t := by
  induction text generalizing s with
  | nil =>
      cases h
      exact .inl rfl
  | cons c text ih =>
      obtain ⟨u, hu, h⟩ := bind_eq_ok.1 h
      have reads := feed_reads hs hu
      exact .bind (fun _ => (feedAll_reads reads.fits h).mem_names) (feed_on hs hu)
        (ih reads.fits h)

/-- **A text that takes other names than the frame is read in the frame.** -/
theorem feedAll_on_of_names {text : List Char} (hs : s.Fits) (h : s.feedAll text = .ok t)
    (hnames : ∀ name ∈ t.names.map Prod.fst, name ∉ f.names.map Prod.fst) :
    (s.on f).feedAll text = .ok (t.on f) :=
  (feedAll_on hs h).eq_of_not_clashes fun ⟨name, hname, htaken⟩ => hnames name hname htaken

end Reader

end ParamTemplate.Regex
