/-
**Counting groups before a segment.**

Segments are made of pieces one after the other, while a counter is kept for the number of the next
group.  What a segment is called and what it matches is decided by its piece alone; its position and
the number of its group are found by counting in the segments before it.  So the segments of two
lists of pieces, one behind the other, are those of the first list and, behind them, those of the
second one, moved by what was counted in the first one.

Main definitions:

* `Template.Segment.StemsFrom` — what a piece decides about its segment;
* `Template.Segment.shift` — a segment behind more groups and more segments.

Main results:

* `Template.Segment.index?_eq` — **the number of a group is found by counting**;
* `Template.Segment.ofPiecesFrom_append` — the segments of pieces behind others;
* `Template.Segment.ofPieces_counted` — **what is known of the segments of any pieces.**
-/

import ParamTemplate.Proofs.Template.Assembling
import ParamTemplate.Proofs.Template.Values

set_option autoImplicit false

namespace ParamTemplate.Template

/-- **The name of a placeholder has no comma,** and the body is the name, or the name and the
expression behind the first comma. -/
theorem exists_splitBody (body : List Char) : ∃ name pattern,
    splitBody body = (name, pattern) ∧ ',' ∉ name ∧
      if ',' ∈ body then body = name ++ ',' :: pattern
      else body = name ∧ pattern = defaultPattern := by
  by_cases h : ',' ∈ body
  · obtain ⟨name, pattern, rfl, hname⟩ := List.eq_append_cons_of_mem h
    exact ⟨name, pattern, splitBody_append hname pattern, hname, by rw [if_pos h]⟩
  · exact ⟨body, defaultPattern, splitBody_of_not_mem h, h, by rw [if_neg h]; exact ⟨rfl, rfl⟩⟩

namespace Segment

variable {pieces more : List Piece} {segments : List Segment} {segment : Segment}

/-! ### What a piece decides -/

/-- **What a piece decides about its segment.** -/
def StemsFrom (segment : Segment) : Piece → Prop
  | .literal text => segment.name? = none ∧ segment.index? = none ∧ segment.body = text
  | .placeholder body => ∃ name, segment.name? = some name ∧ ',' ∉ name ∧
      if ',' ∈ body then body = name ++ ',' :: segment.body
      else body = name ∧ segment.body = ".*".toList

theorem stemsFrom_ofPiece (next position : Nat) (piece : Piece) :
    (ofPiece next position piece).StemsFrom piece := by
  cases piece with
  | literal text => exact ⟨rfl, rfl, rfl⟩
  | placeholder body =>
      obtain ⟨name, pattern, hsplit, hname, hbody⟩ := exists_splitBody body
      rw [ofPiece, hsplit]
      exact ⟨name, rfl, hname, hbody⟩

theorem groupCount?_ofPiece (next position : Nat) (piece : Piece) :
    (ofPiece next position piece).groupCount? =
      Regex.groupCount? (ofPiece next position piece).body := by
  cases piece with
  | literal text => rfl
  | placeholder body => rfl

theorem position_ofPiece (next position : Nat) (piece : Piece) :
    (ofPiece next position piece).position = position := by
  cases piece with
  | literal text => rfl
  | placeholder body => rfl

/-! ### What is counted -/

/-- The groups of segments are those inside of them, and one for each placeholder. -/
theorem sum_width (segments : List Segment) : (segments.map width).sum =
    (segments.map fun segment => segment.groupCount?.getD 0).sum +
      segments.countP isPlaceholder := by
  induction segments with
  | nil => rfl
  | cons segment rest ih =>
      simp only [List.map_cons, List.sum_cons, List.countP_cons, ih, width]
      omega

/-- What is known of each of the segments of pieces. -/
theorem getElem?_ofPiecesFrom {next position k : Nat}
    (h : (ofPiecesFrom next position pieces)[k]? = some segment) :
    ∃ piece next', pieces[k]? = some piece ∧ segment = ofPiece next' (position + k) piece := by
  induction pieces generalizing next position k with
  | nil => cases h
  | cons piece rest ih =>
      cases k with
      | zero =>
          cases h
          exact ⟨piece, next, rfl, rfl⟩
      | succ k =>
          obtain ⟨piece', next', hpiece, hsegment⟩ := ih h
          refine ⟨piece', next', hpiece, ?_⟩
          rw [hsegment, Nat.add_assoc, Nat.add_comm 1]

/-- **The number of the group of a placeholder** is found by counting the groups before it. -/
theorem index?_eq {k : Nat} (h : (ofPieces pieces)[k]? = some segment)
    (hplaceholder : segment.isPlaceholder) : segment.index? =
      some (1 + (((ofPieces pieces).take k).map fun segment => segment.groupCount?.getD 0).sum +
        ((ofPieces pieces).take k).countP isPlaceholder) := by
  rw [index?_of_getElem? rfl h hplaceholder, sum_width, Nat.add_assoc]
  rfl

/-- **Between the numbers of two placeholders** there is room for the group of the first one and for
those inside of it. -/
theorem pairwise_index? (next position : Nat) (pieces : List Piece) :
    (ofPiecesFrom next position pieces).Pairwise fun first second =>
      ∀ index ∈ first.index?, ∀ index' ∈ second.index?,
        index + 1 + first.groupCount?.getD 0 ≤ index' := by
  induction pieces generalizing next position with
  | nil => exact .nil
  | cons piece rest ih =>
      refine .cons (fun second hsecond index hindex index' hindex' => ?_) (ih _ _)
      obtain ⟨k, hk⟩ := List.mem_iff_getElem?.1 hsecond
      have counted := index?_of_getElem? rfl hk (isPlaceholder_of_index? hindex')
      cases piece with
      | literal text => cases hindex
      | placeholder body =>
          cases hindex
          cases hindex'.symm.trans counted
          simp only [width, isPlaceholder, name?, ofPiece, Option.isSome_some, if_true]
          omega

/-! ### Pieces behind others -/

/-- **A segment behind more groups and more segments.** -/
def shift (groups positions : Nat) (segment : Segment) : Segment where
  kind :=
    match segment.kind with
    | .literal => .literal
    | .placeholder name index => .placeholder name (index + groups)
  body := segment.body
  position := segment.position + positions
  groupCount? := segment.groupCount?

theorem ofPiece_add (next position groups positions : Nat) (piece : Piece) :
    ofPiece (next + groups) (position + positions) piece =
      (ofPiece next position piece).shift groups positions := by
  cases piece with
  | literal text => rfl
  | placeholder body => rfl

theorem width_shift (groups positions : Nat) (segment : Segment) :
    (segment.shift groups positions).width = segment.width := by
  obtain ⟨kind, body, position, groupCount?⟩ := segment
  cases kind with
  | literal => rfl
  | placeholder name index => rfl

/-- The counter and the position only move the segments. -/
theorem ofPiecesFrom_add (next position groups positions : Nat) (pieces : List Piece) :
    ofPiecesFrom (next + groups) (position + positions) pieces =
      (ofPiecesFrom next position pieces).map (shift groups positions) := by
  induction pieces generalizing next position with
  | nil => rfl
  | cons piece rest ih =>
      have counter : next + groups + (ofPiece (next + groups) (position + positions) piece).width =
          next + (ofPiece next position piece).width + groups := by
        rw [ofPiece_add, width_shift, Nat.add_right_comm]
      rw [ofPiecesFrom, ofPiecesFrom, List.map_cons, counter, ofPiece_add,
        Nat.add_right_comm position positions 1, ih]

/-- **The segments of pieces behind others** go on counting where those before them have ended. -/
theorem ofPiecesFrom_append (next position : Nat) (pieces more : List Piece) :
    ofPiecesFrom next position (pieces ++ more) = ofPiecesFrom next position pieces ++
      ofPiecesFrom (next + ((ofPiecesFrom next position pieces).map width).sum)
        (position + pieces.length) more := by
  induction pieces generalizing next position with
  | nil => rfl
  | cons piece rest ih =>
      simp only [List.cons_append, ofPiecesFrom, ih, List.map_cons, List.sum_cons, List.length_cons,
        Nat.add_assoc, Nat.add_comm 1]

/-! ### All at once -/

/-- **What is known of the segments of any pieces.**  A segment stands where its piece does and is
what its piece decides; its groups are those that its expression has on its own.  The number of the
group of a placeholder is found by counting, so the numbers are positive and leave room for the
groups inside of each placeholder.  Pieces behind others make the same segments, moved. -/
theorem ofPieces_counted (pieces : List Piece) :
    (ofPieces pieces).length = pieces.length ∧
    (∀ k segment, (ofPieces pieces)[k]? = some segment →
      segment.position = k ∧ segment.groupCount? = Regex.groupCount? segment.body ∧
      (∃ piece, pieces[k]? = some piece ∧ segment.StemsFrom piece) ∧
      (segment.isPlaceholder → segment.index? =
        some (1 + (((ofPieces pieces).take k).map fun earlier => earlier.groupCount?.getD 0).sum +
          ((ofPieces pieces).take k).countP isPlaceholder))) ∧
    (∀ segment ∈ ofPieces pieces, ∀ index ∈ segment.index?, 1 ≤ index) ∧
    ((ofPieces pieces).Pairwise fun first second =>
      ∀ index ∈ first.index?, ∀ index' ∈ second.index?,
        index + 1 + first.groupCount?.getD 0 ≤ index') ∧
    ∀ more, ofPieces (pieces ++ more) = ofPieces pieces ++ (ofPieces more).map
      (shift (((ofPieces pieces).map fun earlier => earlier.groupCount?.getD 0).sum +
        (ofPieces pieces).countP isPlaceholder) pieces.length) := by
  refine ⟨length_ofPieces pieces, fun k segment hk => ?_, fun segment hsegment index hindex => ?_,
    pairwise_index? 1 0 pieces, fun more => ?_⟩
  · obtain ⟨piece, next, hpiece, rfl⟩ := getElem?_ofPiecesFrom hk
    refine ⟨?_, groupCount?_ofPiece .., ⟨piece, hpiece, stemsFrom_ofPiece ..⟩, index?_eq hk⟩
    rw [position_ofPiece, Nat.zero_add]
  · obtain ⟨k, hk⟩ := List.mem_iff_getElem?.1 hsegment
    have counted := index?_eq hk (isPlaceholder_of_index? hindex)
    cases hindex.symm.trans counted
    omega
  · rw [ofPieces, ofPiecesFrom_append, sum_width, ofPiecesFrom_add]
    rfl

end Segment

end ParamTemplate.Template
