/-
**Where an expression can end.**

When a text is an expression on its own, its end leaves at most one thing to settle: an operator, a
count, a code, a property of one letter or a boundary might have gone on.  So reading can go on
behind the expression in two steps: what is left is put into the sequence at hand, and then the next
character finds the reader between two items.  Only a question mark or an opening brace would be
taken for a part of what was left.

Main definitions:

* `Regex.Mode.rest` — the item that a mode leaves at the end;
* `Regex.Reader.settled` — the state with that item in its place;
* `Regex.Reader.Done` — the states at the end of an expression.

Main results:

* `Regex.Reader.done_of_finish` — **a state from which an expression comes out is done,** and the
  expression is what stands at its level;
* `Regex.Reader.feed_of_settle` — a character behind an expression is read between two items.
-/

import ParamTemplate.Proofs.Regex.Reader.Framing
import ParamTemplate.Proofs.Regex.Reader.Moves

set_option autoImplicit false

namespace ParamTemplate.Regex

/-! ### What is left -/

/-- **The item that a mode leaves** when the expression ends at a place. -/
def Mode.rest (stop : Position) : Mode → Option Pattern
  | afterOperator body min max => some (.repetition (body.span.upTo stop) min max true body)
  | afterCount counted min max =>
      some (.repetition (counted.body.span.upTo stop) min max true counted.body)
  | afterHexFixed start _ width digits =>
      (charOfHex? digits).map fun char =>
        .literal { span := ⟨start, stop⟩, char, isByte := width = 2 }
  | afterHexBraced start _ _ _ digits =>
      (charOfHex? digits).map fun char => .literal { span := ⟨start, stop⟩, char }
  | afterPropertyLetter start negated letter =>
      some (.property ⟨start, stop⟩ (.named [letter]) negated)
  | afterBoundary span => some (.assertion span .wordBoundary)
  | _ => none

/-- What a mode leaves in a frame. -/
theorem Mode.rest_on {f : Frame} (mode : Mode) (stop : Position) :
    (mode.on f).rest (f.offset + stop) = (mode.rest stop).map (·.relabel f.relabelling) := by
  cases mode with
  | afterOperator body min max =>
      simp only [on, rest, Option.map_some, Pattern.relabel, Pattern.span_relabel]
      rfl
  | afterCount counted min max =>
      simp only [on, rest, Option.map_some, Pattern.relabel, Counted.on, Pattern.span_relabel]
      rfl
  | afterHexFixed start digitsStart width digits =>
      simp only [on, rest, Option.map_map]
      rfl
  | afterHexBraced start brace digitsStart digitsStop digits =>
      simp only [on, rest, Option.map_map]
      rfl
  | _ => rfl

theorem Mode.isApart_on {f : Frame} (mode : Mode) : (mode.on f).isApart = mode.isApart := by
  cases mode <;> rfl

theorem Mode.isAsciiName_of_isApart {mode : Mode} (h : mode.isApart = false) :
    Reader.isAsciiName mode = false := by
  cases mode with
  | asciiName => cases h
  | _ => rfl

namespace Reader

variable {s t u v : Reader}

/-- The state with what its mode leaves in its place. -/
def settled (s : Reader) : Reader :=
  match s.mode.rest s.pos with
  | some item => s.push item
  | none => s

@[simp] theorem pos_settled (s : Reader) : s.settled.pos = s.pos := by
  unfold settled
  split <;> rfl

@[simp] theorem verbose_settled (s : Reader) : s.settled.verbose = s.verbose := by
  unfold settled
  split <;> rfl

@[simp] theorem comment_settled (s : Reader) : s.settled.comment = s.comment := by
  unfold settled
  split <;> rfl

@[simp] theorem groups_settled (s : Reader) : s.settled.groups = s.groups := by
  unfold settled
  split <;> rfl

@[simp] theorem names_settled (s : Reader) : s.settled.names = s.names := by
  unfold settled
  split <;> rfl

@[simp] theorem stack_settled (s : Reader) : s.settled.stack = s.stack := by
  unfold settled
  split <;> rfl

@[simp] theorem brackets_settled (s : Reader) : s.settled.brackets = s.brackets := by
  unfold settled
  split <;> rfl

/-- What is left comes to its place in a frame, too. -/
theorem settled_on {f : Frame} (s : Reader) : (s.on f).settled = s.settled.on f := by
  have rest : (s.on f).mode.rest (s.on f).pos =
      (s.mode.rest s.pos).map (·.relabel f.relabelling) := s.mode.rest_on s.pos
  unfold settled
  rw [rest]
  cases s.mode.rest s.pos with
  | none => rfl
  | some item => exact push_on s item

/-- **Whether a state is at the end of an expression:** nothing is open, and whatever comes next,
except what would be taken for a part of it, finds the state with what is left in its place.  The
place may be moved on, since what is left may be followed by blanks and a comment. -/
structure Done (s : Reader) : Prop where
  stack : s.stack = []
  brackets : s.brackets = []
  isApart : s.mode.isApart = false
  mode : ∀ pos comment, { s with pos, comment }.settled.mode = .main
  settle : ∀ pos comment next, next ≠ some '?' → next ≠ some '{' →
    { s with pos, comment }.settle next = .ok { s with pos, comment }.settled

/-- Nothing else than what is left counts for an end. -/
theorem Done.moved (hs : s.Done) (pos : Position) (comment : Bool) :
    Done { s with pos, comment } :=
  ⟨hs.stack, hs.brackets, hs.isApart, hs.mode, hs.settle⟩

theorem settled_of_rest {item : Pattern} (h : s.mode.rest s.pos = some item) :
    s.settled = s.push item := by
  rw [settled, h]

/-- A state in which an item is left is done if nothing is open and the item comes to its place. -/
theorem done_of_rest {item : Position → Pattern} (hstack : s.stack = []) (hb : s.brackets = [])
    (hmode : s.mode.isApart = false) (hrest : ∀ stop, s.mode.rest stop = some (item stop))
    (hsettle : ∀ pos comment next, next ≠ some '?' → next ≠ some '{' →
      { s with pos, comment }.settle next = .ok ({ s with pos, comment }.push (item pos))) :
    s.Done := by
  have settled : ∀ pos comment,
      { s with pos, comment }.settled = { s with pos, comment }.push (item pos) :=
    fun pos _ => settled_of_rest (hrest pos)
  refine ⟨hstack, hb, hmode, fun pos comment => ?_, fun pos comment next h h' => ?_⟩
  · rw [settled]
    rfl
  · rw [settled, hsettle pos comment next h h']

/-! ### Ends -/

theorem finishMode_eq_ok {p : Pattern} (h : s.finishMode = .ok p) :
    s.mode = .main ∧ s.stack = [] ∧ p = s.level.close s.pos := by
  obtain ⟨pos, verbose, comment, groups, names, level, stack, brackets, mode⟩ := s
  cases mode with
  | main =>
      cases stack with
      | nil =>
          cases h
          exact ⟨rfl, rfl, rfl⟩
      | cons group stack => cases h
  | escape | hex | hexFixed | hexBraced | property | propertyName | boundaryName | groupQuestion
  | groupAngle | groupName | groupLetter | groupFlags | bracketOpen => cases h
  | _ => cases brackets <;> cases h

/-- Inside of a bracket nothing ends. -/
theorem deliver_of_main {atom : Atom} (h : s.deliver atom = .ok t) (h' : t.settle none = .ok u)
    (hmode : u.mode = .main) : s.brackets = [] ∧ t = s.push atom.toPattern := by
  unfold deliver at h
  split at h
  next hb =>
    cases h
    exact ⟨hb, rfl⟩
  next bracket brackets hb =>
    split at h
    next lo _ =>
      obtain ⟨first, -, h⟩ := bind_eq_ok.1 h
      obtain ⟨last, -, h⟩ := bind_eq_ok.1 h
      split at h
      · cases h
        rw [Reader.settle, mode_pushBracket] at h'
        cases h'
        rw [mode_pushBracket] at hmode
        cases hmode
      · cases h
    next =>
      cases h
      cases h'
      cases hmode

/-- The end of a text settles what is over and asks for the expression. -/
theorem finish_eq (hmode : isAsciiName s.mode = false) :
    s.finish = s.settle none >>= fun u => u.settle none >>= finishMode := by
  unfold finish
  split
  next heq =>
    rw [heq] at hmode
    cases hmode
  · rfl

/-- What may begin an ASCII class is no end. -/
theorem not_asciiName_of_finish {p : Pattern} (hs : s.Fits) (h : s.finish = .ok p) :
    isAsciiName s.mode = false := by
  cases hmode : s.mode with
  | asciiName start seen =>
      obtain ⟨-, -, hbegins, hnone⟩ : s.brackets ≠ [] ∧ s.pos = start + 1 + seen.length ∧
          beginsAsciiClass seen ∧ asciiClass? seen = none := by
        rw [Fits, hmode] at hs
        exact hs
      have reread : s.finish = s.reread start seen >>= fun x =>
          x.settle none >>= fun u => u.settle none >>= finishMode := by
        rw [finish, hmode]
      rw [reread] at h
      obtain ⟨x, hx, h⟩ := bind_eq_ok.1 h
      obtain ⟨u, hu, h⟩ := bind_eq_ok.1 h
      obtain ⟨v, hv, hfinish⟩ := bind_eq_ok.1 h
      have reading : isRereading x.mode :=
        (foldlM_advanceDash_reads (s := { s with pos := start + 1, mode := .bracketOpen .. })
          trivial rfl (fun c hc => isClassChar_of_mem hbegins hnone hc) hx).2
      have stays : ∀ {x y : Reader}, isRereading x.mode → x.settle none = .ok y → y = x := by
        intro x y hx hy
        unfold settle at hy
        cases hm : x.mode <;> rw [hm] at hx hy <;> cases hx <;> cases hy <;> rfl
      obtain rfl := stays reading hu
      obtain rfl := stays reading hv
      rw [(finishMode_eq_ok hfinish).1] at reading
      cases reading
  | _ => rfl

/-- **A state from which an expression comes out is done,** and the expression is what stands at its
level. -/
theorem done_of_finish {p : Pattern} (hs : s.Fits) (h : s.finish = .ok p) :
    s.Done ∧ p = s.settled.level.close s.pos := by
  have hascii := not_asciiName_of_finish hs h
  rw [finish_eq hascii] at h
  obtain ⟨u, hu, h⟩ := bind_eq_ok.1 h
  obtain ⟨v, hv, hfinish⟩ := bind_eq_ok.1 h
  obtain ⟨hmain, hstack, rfl⟩ := finishMode_eq_ok hfinish
  obtain ⟨pos, verbose, comment, groups, names, level, stack, brackets, mode⟩ := s
  cases mode with
  | asciiName => cases hascii
  | main =>
      cases hu
      cases hv
      exact ⟨⟨hstack, hs, rfl, fun _ _ => rfl, fun _ _ _ _ _ => rfl⟩, rfl⟩
  | afterOperator body min max =>
      cases hu
      cases hv
      exact ⟨done_of_rest hstack hs rfl (fun _ => rfl) fun _ _ _ hne _ => if_neg hne, rfl⟩
  | afterCount counted min max =>
      cases max with
      | none =>
          cases hu
          cases hv
          exact ⟨done_of_rest hstack hs rfl (fun _ => rfl) fun _ _ _ hne _ => if_neg hne, rfl⟩
      | some n =>
          replace hu : (if min ≤ n then .ok (pushRepetition _ counted.body min (some n) true)
              else refuse .countRangeInvalid _) = .ok u := hu
          by_cases hle : min ≤ n
          · rw [if_pos hle] at hu
            cases hu
            cases hv
            exact ⟨done_of_rest hstack hs rfl (fun _ => rfl)
              fun _ _ _ hne _ => (if_neg hne).trans (if_pos hle), rfl⟩
          · rw [if_neg hle] at hu
            cases hu
  | afterHexFixed start digitsStart width digits =>
      obtain ⟨char, hchar, hu⟩ := finishHexFixed_eq_ok_iff.1 hu
      obtain ⟨rfl, rfl⟩ : brackets = [] ∧ _ := deliver_of_main hu hv hmain
      cases hv
      have rest (stop : Position) : (Mode.afterHexFixed start digitsStart width digits).rest stop =
          some (.literal { span := ⟨start, stop⟩, char, isByte := width = 2 }) := by
        rw [Mode.rest, hchar, Option.map_some]
      refine ⟨done_of_rest hstack rfl rfl rest fun _ _ _ _ _ => ?_, ?_⟩
      · exact finishHexFixed_eq_ok_iff.2 ⟨char, hchar, rfl⟩
      · rw [settled_of_rest (rest pos)]
        rfl
  | afterHexBraced start brace digitsStart digitsStop digits =>
      obtain ⟨char, hempty, hchar, hu⟩ := finishHexBraced_eq_ok_iff.1 hu
      obtain ⟨rfl, rfl⟩ : brackets = [] ∧ _ := deliver_of_main hu hv hmain
      cases hv
      have rest (stop : Position) :
          (Mode.afterHexBraced start brace digitsStart digitsStop digits).rest stop =
            some (.literal { span := ⟨start, stop⟩, char }) := by
        rw [Mode.rest, hchar, Option.map_some]
      refine ⟨done_of_rest hstack rfl rfl rest fun _ _ _ _ _ => ?_, ?_⟩
      · exact finishHexBraced_eq_ok_iff.2 ⟨char, hempty, hchar, rfl⟩
      · rw [settled_of_rest (rest pos)]
        rfl
  | afterPropertyLetter start negated letter =>
      obtain ⟨rfl, rfl⟩ : brackets = [] ∧ _ := deliver_of_main hu hv hmain
      cases hv
      exact ⟨done_of_rest hstack rfl rfl (fun _ => rfl) fun _ _ _ _ _ => rfl, rfl⟩
  | afterBoundary span =>
      obtain ⟨rfl, rfl⟩ : brackets = [] ∧ _ := deliver_of_main (t := u) hu hv hmain
      cases hv
      exact ⟨done_of_rest hstack rfl rfl (fun _ => rfl) fun _ _ _ _ hne => if_neg hne, rfl⟩
  | groupOpen span =>
      cases hu
      cases hv
      cases hstack
  | maximum counted min number =>
      obtain ⟨n, hn, hu⟩ := bind_eq_ok.1 hu
      cases hu
      cases hv
  | groupQuestion | groupAngle | bracketOpen | twin | afterAtom | escape | hex | hexFixed
  | hexBraced | property | propertyName | boundaryName | groupLetter | groupName | groupFlags
  | bracket | dash | rangeEnd =>
      cases hu
      cases hv
      cases hmain
  | _ => cases hu

/-! ### What follows -/

/-- At the end of an expression, the next character is dealt with at once. -/
theorem feed_eq_advance (hmode : s.mode.isApart = false) (c : Char) : s.feed c = s.advance c := by
  unfold feed advanceDash
  cases hm : s.mode with
  | asciiName | dash =>
      rw [hm] at hmode
      cases hmode
  | _ => rfl

/-- A comment takes in whatever comes. -/
theorem feed_comment (hmode : s.mode.isApart = false) (hcomment : s.comment = true) (c : Char) :
    s.feed c = .ok (s.passComment c) := by
  rw [feed_eq_advance hmode, advance, if_pos hcomment]
  rfl

/-- **A comment goes on** up to the end of the line. -/
theorem feedAll_comment {rest : List Char} (hmode : s.mode.isApart = false)
    (hcomment : s.comment = true) (h : '\n' ∉ rest) :
    s.feedAll rest = .ok { s with pos := s.pos + rest.length, comment := true } := by
  induction rest generalizing s with
  | nil =>
      obtain ⟨pos, verbose, comment, groups, names, level, stack, brackets, mode⟩ := s
      cases hcomment
      rfl
  | cons c rest ih =>
      obtain ⟨hc, hrest⟩ := not_or.1 (mt List.mem_cons.2 h)
      have passed : s.passComment c = { s with pos := s.pos + 1, comment := true } := by
        rw [passComment, bne_iff_ne.2 (Ne.symm hc)]
      rw [feedAll_cons, feed_comment hmode hcomment, passed]
      refine (ih (s := { s with pos := s.pos + 1, comment := true }) hmode rfl hrest).trans ?_
      rw [List.length_cons, Nat.add_right_comm, Nat.add_assoc]

/-- **A character that neither is ignored nor goes on with what is over** is read between two
items. -/
theorem feed_of_settle {c : Char} (hcomment : s.comment = false) (hmode : s.mode.isApart = false)
    (hskips : s.skips c = false) (h : s.settle (some c) = .ok t) (ht : t.mode = .main)
    (hskips' : t.skips c = false) : s.feed c = t.takeMain c := by
  have again : t.settle (some c) = .ok t := by
    rw [settle, ht]
  have taken : t.take c = t.takeMain c := by
    rw [take, ht]
  rw [feed_eq_advance hmode, advance, hcomment, hskips, h, ← taken]
  simp only [Bool.false_eq_true, if_false]
  change (if t.skips c then _ else _) = _
  rw [hskips']
  simp only [Bool.false_eq_true, if_false, again]
  rfl

/-- A character that is neither a blank nor the start of a comment is not ignored. -/
theorem skips_eq_false {c : Char} (h : s.verbose → Unicode.isBlank c = false ∧ c ≠ '#') :
    s.skips c = false := by
  unfold skips
  cases hv : s.verbose with
  | false => rfl
  | true =>
      obtain ⟨hblank, hhash⟩ := h hv
      simp [hblank, hhash]

/-- Between two items a character is read at once. -/
theorem feed_of_main {c : Char} (hcomment : s.comment = false) (hmode : s.mode = .main)
    (h : s.verbose → Unicode.isBlank c = false ∧ c ≠ '#') : s.feed c = s.takeMain c := by
  refine feed_of_settle hcomment (by rw [hmode]; rfl) (skips_eq_false h) ?_ hmode
    (skips_eq_false h)
  rw [settle, hmode]

/-- Behind an expression in a frame, the next character is read between two items. -/
theorem Done.feed_on {f : Frame} {c : Char} (hs : s.Done) (hcomment : s.comment = false)
    (h : s.verbose → Unicode.isBlank c = false ∧ c ≠ '#') (hquestion : c ≠ '?') (hbrace : c ≠ '{') :
    (s.on f).feed c = (s.settled.on f).takeMain c := by
  have settle := settle_on (f := f)
    (hs.settle s.pos s.comment (some c) (by simpa using hquestion) (by simpa using hbrace))
  have mode : (s.settled.on f).mode = .main := by
    rw [mode_on, show s.settled.mode = .main from hs.mode s.pos s.comment]
    rfl
  refine feed_of_settle hcomment ?_ (skips_eq_false h) settle mode (skips_eq_false ?_)
  · rw [mode_on, Mode.isApart_on, hs.isApart]
  · rwa [verbose_on, verbose_settled]

/-- Between two items the end finds what stands at the level. -/
theorem finish_of_main (hmode : s.mode = .main) : s.finish = s.finishLevel := by
  have settle : s.settle none = .ok s := by
    rw [Reader.settle, hmode]
  have mode : s.finishMode = s.finishLevel := by
    rw [finishMode, hmode]
  rw [finish_eq (by rw [hmode]; rfl), settle, ← mode]
  change s.settle none >>= finishMode = _
  rw [settle]
  rfl

/-- Behind an expression in a frame, the end finds what is left in its place. -/
theorem Done.finish_on {f : Frame} (hs : s.Done) : (s.on f).finish = (s.settled.on f).finish := by
  have settle := settle_on (f := f) (hs.settle s.pos s.comment none nofun nofun)
  have mode : (s.settled.on f).mode = .main := by
    rw [mode_on, show s.settled.mode = .main from hs.mode s.pos s.comment]
    rfl
  have ascii : isAsciiName (s.on f).mode = false :=
    Mode.isAsciiName_of_isApart ((Mode.isApart_on s.mode).trans hs.isApart)
  have again : (s.settled.on f).settle none = .ok (s.settled.on f) := by
    rw [Reader.settle, mode]
  rw [finish_eq ascii, finish_eq (by rw [mode]; rfl), settle, again]

/-- **The end of an expression finds what stands at its level.** -/
theorem Done.finish (hs : s.Done) : s.finish = .ok (s.settled.level.close s.pos) := by
  have settle : s.settle none = .ok s.settled := hs.settle s.pos s.comment none nofun nofun
  have mode : s.settled.mode = .main := hs.mode s.pos s.comment
  have ascii : isAsciiName s.mode = false := Mode.isAsciiName_of_isApart hs.isApart
  have again : s.settled.settle none = .ok s.settled := by
    rw [Reader.settle, mode]
  have same : s.finish = s.settled.finish := by
    rw [finish_eq ascii, finish_eq (by rw [mode]; rfl), settle, again]
  rw [same, finish_of_main mode, finishLevel, stack_settled, hs.stack, pos_settled]

end Reader

end ParamTemplate.Regex
