/-
**Group counts add up.**

The groups of an expression are counted in the expression alone, and then the counts are added.
That this comes to the count of all of it is a matter of reading: no construction may reach over the
place where two expressions meet.  What is read of the second one comes to the level of the first
one, with its groups behind those of the first one.  In parentheses, an expression becomes the body
of a group with the number 1, and its own groups follow.

Blanks have to count where the two meet.  Otherwise a comment at the end of the first one may go on
over the second one.  In parentheses it goes on over the closing one, and then nothing is accepted.

Main results:

* `Regex.Reader.Alone.gather_append` — what an expression has behind another one;
* `Regex.Reader.Alone.eq_group` — what an expression becomes in parentheses;
* `Regex.groupCounts_add_up` — **group counts add up.**
-/

import ParamTemplate.Proofs.Regex.Lasting
import ParamTemplate.Proofs.Regex.Limits

set_option autoImplicit false

namespace ParamTemplate.Regex

/-! ### Levels -/

section

variable {α : Type} {g : Pattern → List α}

theorem gathers_lasting : Gathers Pattern.lasting where
  empty _ := rfl
  sequence _ items := Pattern.allLasting_eq_flatMap items
  choice _ branches := Pattern.allLasting_eq_flatMap branches

namespace Level

/-- Branches, the first of which is the end of the sequence at hand of another level. -/
theorem gather_joinRows (base : Level) {rows : List Row} (hne : rows ≠ []) :
    (joinRows base rows).reverse.flatMap (Row.gather g) =
      base.gather g ++ rows.reverse.flatMap (Row.gather g) := by
  induction rows with
  | nil => exact absurd rfl hne
  | cons row rows ih =>
      cases rows with
      | nil => simp [joinRows, gather, Row.gather, List.flatMap_append]
      | cons row' rows =>
          have first : joinRows base (row :: row' :: rows) = row :: joinRows base (row' :: rows) :=
            rfl
          rw [first, List.reverse_cons, List.flatMap_append, ih (List.cons_ne_nil _ _),
            List.append_assoc, ← List.flatMap_append, ← List.reverse_cons]

/-- **The end of a level** has what it has behind what the level had. -/
theorem gather_join (base level : Level) :
    (base.join level).gather g = base.gather g ++ level.gather g := by
  obtain ⟨start, items, rows⟩ := level
  cases rows with
  | nil => simp [join, joinRows, gather, List.flatMap_append]
  | cons row rows =>
      have rows := gather_joinRows (g := g) base (List.cons_ne_nil row rows)
      simp only [join, gather, List.isEmpty_cons, Bool.false_eq_true, if_false] at rows ⊢
      rw [rows]
      simp only [List.append_assoc]

/-- What a level has at another place. -/
theorem gather_moved {f : Frame} {move : α → α}
    (hmove : ∀ p : Pattern, g (p.relabel f.relabelling) = (g p).map move) (level : Level) :
    (level.moved f).gather g = (level.gather g).map move := by
  have items : ∀ items : List Pattern,
      (items.map (·.relabel f.relabelling)).reverse.flatMap g =
        (items.reverse.flatMap g).map move := by
    intro items
    rw [← List.map_reverse, List.flatMap_map, List.map_flatMap]
    simp only [hmove]
  have row : ∀ row : Row, (row.on f).gather g = (row.gather g).map move := fun row =>
    items row.items
  rw [gather, gather, List.map_append]
  refine congrArg₂ (· ++ ·) ?_ (items level.items)
  simp only [moved, ← List.map_reverse, List.flatMap_map, List.map_flatMap, row]

end Level

end

/-! ### Expressions one behind the other -/

namespace Reader

variable {s u v : Reader} {text more : List Char} {p q r : Pattern} {α : Type}
  {g : Pattern → List α}

/-- **What an expression has behind another one** is what both have, one after the other. -/
theorem Alone.gather_append (h : Alone text u p) (hv : u.verbose = false) (h' : Alone more v q)
    (hs : Alone (text ++ more) s r) (hg : Gathers g) {move : α → α}
    (hmove : ∀ p : Pattern, g (p.relabel u.settled.frame.relabelling) = (g p).map move) :
    g r = g p ++ (g q).map move := by
  have ready : u.Ready u.settled := by
    have ready := resting_start.ready.join h hv h.feed
    rwa [← ready.settled] at ready
  have hfeed := hs.feed
  rw [feedAll_append, h.feed] at hfeed
  have behind : (v.settled.level.moved u.settled.frame).gather g = (g q).map move := by
    rw [Level.gather_moved hmove, ← h'.close, Level.gather_close hg]
  rcases ready.feedAll h' hfeed with ⟨rfl, rfl⟩ | rfl
  · -- Nothing is read of the second expression.
    cases h'.feed
    rw [List.append_nil] at hs
    rw [← behind, hs.eq h]
    exact (List.append_nil _).symm
  · have level : (v.on u.settled.frame).settled.level =
        u.settled.level.join (v.settled.level.moved u.settled.frame) := by
      rw [settled_on]
      simp only [on, stack_settled, h'.done.stack, List.isEmpty_nil, Level.on, if_true, frame]
    rw [← hs.close, ← h.close, Level.gather_close hg, Level.gather_close hg, level,
      Level.gather_join, behind]

/-! ### Parentheses -/

/-- **What an expression becomes in parentheses:** the body of the group with the number 1. -/
theorem Alone.eq_group (h : Alone text u p) (hs : Alone ('(' :: (text ++ [')'])) s r) :
    r = .group ⟨0, text.length + 2⟩ (.numbered 1)
      (p.relabel ({} : Reader).afterParenthesis.frame.relabelling) := by
  have hcomment : u.comment = false := by
    by_contra hcomment
    -- The parenthesis at the end would belong to the comment.
    have opened := resting_start.ready.feedAll_group h
    rw [feedAll_on_of_names fits_start h.feed (fun _ _ => List.not_mem_nil), hs.feed] at opened
    obtain ⟨t, ht, hfinish⟩ := h.finish_on_of_comment (by simpa using hcomment)
      (f := ({} : Reader).afterParenthesis.frame) rfl (show '\n' ∉ [')'] by decide)
    cases opened.trans ht
    cases hs.finish.symm.trans hfinish
  obtain ⟨rfl, -⟩ := resting_start.ready.group h hcomment hs.feed
  rw [← hs.close]
  have pos : ({} : Reader).pos + 1 + text.length + 1 = text.length + 2 := by
    change 0 + 1 + text.length + 1 = _
    omega
  rw [pos]
  rfl

end Reader

/-! ### Counts -/

variable {text : List Char} {count : Nat} {s : Reader} {p : Pattern} {regex : Regex}

/-- **What is known of a text that is counted:** it is an expression on its own, of which as many
groups last as are counted. -/
structure Counting (text : List Char) (count : Nat) (s : Reader) (p : Pattern) (regex : Regex) :
    Prop where
  alone : s.Alone text p
  read : Pattern.read text = .ok p
  compile : compile text = .ok regex
  meaning : ∃ flags, p.meaning {} = .ok (regex.expr, flags)
  count : p.lasting.length = count

theorem exists_counting (h : groupCount? text = some count) :
    ∃ s p regex, Counting text count s p regex := by
  obtain ⟨regex, hregex, rfl⟩ := Option.map_eq_some_iff.1 h
  replace hregex := eq_ok_of_toOption hregex
  obtain ⟨s, p, hs⟩ := exists_accepted hregex
  obtain ⟨flags, hmeaning⟩ := hs.meaning
  have nodup : p.lasting.Nodup :=
    (hs.alone.numbers ▸ List.nodup_range').sublist p.lasting_sublist
  have numbers : regex.expr.numbers = p.lasting := p.numbers_of_meaning nodup hmeaning
  refine ⟨s, p, regex, hs.alone, hs.read, hregex, hs.meaning, ?_⟩
  rw [← numbers, Expr.length_numbers, groupCount]

variable {more : List Char} {count' : Nat} {v t : Reader} {q r : Pattern} {inner outer : Regex}

/-- **The counts of two expressions, one behind the other, add up.** -/
theorem Counting.append {inner' outer : Regex} {sum : Nat}
    (h : Counting text count s p inner) (hv : s.verbose = false)
    (h' : Counting more count' v q inner') (hsum : Counting (text ++ more) sum t r outer) :
    sum = count + count' := by
  have lasting := h.alone.gather_append hv h'.alone hsum.alone gathers_lasting
    (Pattern.lasting_relabel _)
  have := congrArg List.length lasting
  rwa [List.length_append, List.length_map, h.count, h'.count, hsum.count] at this

/-- **An expression in parentheses has one more group than the expression.** -/
theorem Counting.parenthesized {sum : Nat} (h : Counting text count s p inner)
    (hsum : Counting ('(' :: (text ++ [')'])) sum t r outer) : sum = count + 1 := by
  have lasting := h.alone.eq_group hsum.alone ▸ hsum.count
  rw [Pattern.lasting, Pattern.lasting_relabel, List.length_append, List.length_map,
    List.length_map, h.count] at lasting
  exact lasting.symm.trans (Nat.add_comm ..)

/-- **The meaning of an expression in parentheses** is its meaning in a group with the number 1; its
own groups follow. -/
theorem Counting.expr_parenthesized {sum : Nat} (h : Counting text count s p inner)
    (hsum : Counting ('(' :: (text ++ [')'])) sum t r outer) :
    outer.expr = .group 1 (inner.expr.renumber (1 + ·)) := by
  obtain ⟨flags, hinner⟩ := h.meaning
  obtain ⟨flags', houter⟩ := hsum.meaning
  rw [h.alone.eq_group hsum.alone] at houter
  obtain ⟨⟨body, _⟩, hbody, houter⟩ := bind_eq_ok.1 houter
  obtain ⟨e, he, rfl⟩ := (Pattern.meaning_relabel_eq_ok (Frame.number_injective _)).1 hbody
  cases hinner.symm.trans he
  exact (congrArg Prod.fst (Except.ok.inj houter)).symm

/-! ### Texts -/

/-- **Group counts add up.**  Where two accepted expressions stand one behind the other and all of
it is accepted, its groups are those of both, unless the first one has blanks ignored at its top
level.  Where an accepted expression stands in parentheses and all of it is accepted, there is one
more group: it has the number 1, and every group of the expression, with the place and the name it
has, keeps its order behind it. -/
theorem groupCounts_add_up :
    (∀ (text more : List Char) (m n k : Nat),
      groupCount? text = some m → groupCount? more = some n →
      (∀ p, Pattern.read text = .ok p →
        ∀ items ∈ p.directives, flagState .verbose items ≠ some true) →
      groupCount? (text ++ more) = some k → k = m + n) ∧
    ∀ (text : List Char) (m k : Nat),
      groupCount? text = some m → groupCount? ('(' :: (text ++ [')'])) = some k →
      k = m + 1 ∧ ∃ inner outer p body,
        compile text = .ok inner ∧ compile ('(' :: (text ++ [')'])) = .ok outer ∧
        Pattern.read text = .ok p ∧
        Pattern.read ('(' :: (text ++ [')'])) =
          .ok (.group ⟨0, text.length + 2⟩ (.numbered 1) body) ∧
        body.groupMarks = p.groupMarks.map (fun mark => (1 + mark.1, 1 + mark.2)) ∧
        body.groupNames = p.groupNames.map (fun group => (1 + group.1, group.2)) ∧
        outer.expr = .group 1 (inner.expr.renumber (1 + ·)) := by
  constructor
  · intro text more m n k hm hn hverbose hk
    obtain ⟨s, p, inner, h⟩ := exists_counting hm
    obtain ⟨v, q, inner', h'⟩ := exists_counting hn
    obtain ⟨t, r, outer, hsum⟩ := exists_counting hk
    exact h.append (h.alone.verbose (hverbose p h.read)) h' hsum
  · intro text m k hm hk
    obtain ⟨s, p, inner, h⟩ := exists_counting hm
    obtain ⟨t, r, outer, hsum⟩ := exists_counting hk
    refine ⟨h.parenthesized hsum, inner, outer, p, _, h.compile, hsum.compile, h.read,
      h.alone.eq_group hsum.alone ▸ hsum.read, ?_, ?_, h.expr_parenthesized hsum⟩
    · exact Pattern.groupMarks_relabel (fun _ => rfl) p
    · exact Pattern.groupNames_relabel _ p

/-- Neither a bracket nor a group that is lost nor a comment at the end stands in the way. -/
theorem groupCounts_add_up_around_brackets :
    groupCount? "(a)|[(]\x7b2\x7d".toList = some 1 ∧
      groupCount? "(b)\x7b0\x7d(c)(?x)d #".toList = some 1 ∧
      groupCount? ("(a)|[(]\x7b2\x7d".toList ++ "(b)\x7b0\x7d(c)(?x)d #".toList) =
        some (1 + 1) ∧
      groupCount? ('(' :: ("(a)|[(]\x7b2\x7d".toList ++ [')'])) = some (1 + 1) := by
  have first : groupCount? "(a)|[(]\x7b2\x7d".toList = some 1 := by decide +kernel
  have second : groupCount? "(b)\x7b0\x7d(c)(?x)d #".toList = some 1 := by decide +kernel
  have verbose : ∀ p ∈ (Pattern.read "(a)|[(]\x7b2\x7d".toList).toOption,
      ∀ items ∈ p.directives, flagState .verbose items ≠ some true := by decide +kernel
  have joined : groupCount? ("(a)|[(]\x7b2\x7d".toList ++
      "(b)\x7b0\x7d(c)(?x)d #".toList) = some 2 := by decide +kernel
  have enclosed : groupCount? ('(' :: ("(a)|[(]\x7b2\x7d".toList ++ [')'])) = some 2 := by
    decide +kernel
  have sum := groupCounts_add_up.1 _ _ _ _ _ first second
    (fun p hp => verbose p (by rw [hp]; rfl)) joined
  have more := (groupCounts_add_up.2 _ _ _ first enclosed).1
  exact ⟨first, second, sum ▸ joined, more ▸ enclosed⟩

/-- With blanks ignored at its end, the first expression takes the second one for a comment. -/
example : groupCount? "(?x)a #".toList = some 0 ∧ groupCount? "(b)".toList = some 1 ∧
    groupCount? "(?x)a #(b)".toList = some 0 := by decide +kernel

end ParamTemplate.Regex
