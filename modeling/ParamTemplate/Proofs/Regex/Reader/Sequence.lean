/-
**What a sequence means while it is read.**

As long as no bar has been read at a level, it holds one sequence of items.  What it means is known
item by item: a further item adds its expression at the end, and the items of an expression that is
read in a frame add those of the expression, with other numbers for the groups.

Main definitions:

* `Regex.Pattern.isChoice` — whether a written expression has bars at its top level;
* `Regex.Expr.row` — the expression of a sequence;
* `Regex.Level.Means` — what a level without bars means.

Main results:

* `Regex.Expr.run_row` — a sequence runs as its items, one after the other;
* `Regex.Level.Means.push`, `Regex.Level.Means.join` — **what further items add to a level.**
-/

import ParamTemplate.Proofs.Regex.Building
import ParamTemplate.Proofs.Regex.Directives
import ParamTemplate.Proofs.Regex.Reader.Frame

set_option autoImplicit false

namespace ParamTemplate.Regex

/-! ### Sequences -/

/-- The expression of a sequence, which is none of one item. -/
def Expr.row : List Expr → Expr
  | [] => .empty
  | [e] => e
  | es => .concat es

theorem Expr.run_row {text : List Char} {es : List Expr} {i j : Nat} {saves : List Save} :
    (row es).Run text i saves j ↔ RunAll text es i saves j := by
  match es with
  | [] => exact Iff.rfl
  | [e] => exact runAll_singleton.symm
  | e :: e' :: es => exact run_concat

theorem Expr.renumber_row {f : Nat → Nat} (es : List Expr) :
    (row es).renumber f = row (es.map (renumber f)) := by
  match es with
  | [] => rfl
  | [e] => rfl
  | e :: e' :: es => exact renumber_concat

/-- **The meaning of a sequence** is made of the meanings of its items. -/
theorem Row.meaning_close (row : Row) {flags flags' : Flags} {e : Expr}
    (h : row.close.meaning flags = .ok (e, flags')) :
    ∃ es, Pattern.meanings flags row.items.reverse = .ok (es, flags') ∧ e = .row es := by
  obtain ⟨span, items⟩ := row
  match items with
  | [] =>
      cases h
      exact ⟨[], rfl, rfl⟩
  | [item] =>
      refine ⟨[e], ?_, rfl⟩
      exact bind_eq_ok.2 ⟨(e, flags'), h, rfl⟩
  | item :: item' :: items =>
      obtain ⟨⟨es, inner⟩, hes, h⟩ := bind_eq_ok.1 h
      cases h
      refine ⟨es, hes, ?_⟩
      have length := Pattern.length_meanings hes
      rw [List.length_reverse] at length
      match es, length with
      | _ :: _ :: _, _ => rfl

/-! ### Levels without bars -/

/-- **Whether a written expression has bars at its top level.** -/
def Pattern.isChoice : Pattern → Bool
  | choice .. => true
  | _ => false

/-- An expression without bars was read at a level without bars. -/
theorem Level.rows_of_close {level : Level} {stop : Position}
    (h : (level.close stop).isChoice = false) : level.rows = [] := by
  obtain ⟨start, items, rows⟩ := level
  cases rows with
  | nil => rfl
  | cons row rows => cases h

/-- **What a level without bars means** as far as it has been read, if it is read with the flags of
the start and leaves them as they are. -/
structure Level.Means (level : Level) (es : List Expr) : Prop where
  rows : level.rows = []
  meaning : Pattern.meanings {} level.items.reverse = .ok (es, {})

namespace Level.Means

variable {level : Level} {es : List Expr} {e : Expr}

theorem opened (start : Position) : (Level.opened start).Means [] := ⟨rfl, rfl⟩

/-- The end of a level without bars. -/
theorem close {stop : Position} {flags : Flags} (h : level.Means es)
    (he : (level.close stop).meaning {} = .ok (e, flags)) : e = .row es ∧ flags = {} := by
  obtain ⟨start, items, rows⟩ := level
  obtain ⟨rfl, hes⟩ := h
  obtain ⟨es', hes', rfl⟩ := Row.meaning_close ⟨⟨start, stop⟩, items⟩ he
  cases hes.symm.trans hes'
  exact ⟨rfl, rfl⟩

/-- **A further item** adds its expression at the end. -/
theorem push {item : Pattern} (h : level.Means es) (he : item.meaning {} = .ok (e, {})) :
    (level.push item).Means (es ++ [e]) := by
  refine ⟨h.rows, ?_⟩
  rw [Level.push, List.reverse_cons]
  exact Pattern.meanings_append.2 ⟨es, {}, [e], h.meaning, bind_eq_ok.2 ⟨(e, {}), he, rfl⟩, rfl⟩

/-- **The items of an expression in a frame** add the expressions of its items, with other numbers
for the groups. -/
theorem join {f : Frame} {level' : Level} {stop : Position} (h : level.Means es)
    (hrows : level'.rows = []) (he : (level'.close stop).meaning {} = .ok (e, {})) :
    ∃ es', (level.join (level'.moved f)).Means (es ++ es') ∧
      .row es' = e.renumber f.relabelling.number := by
  obtain ⟨start', items', rows'⟩ := level'
  cases hrows
  obtain ⟨es', hes', rfl⟩ := Row.meaning_close ⟨⟨start', stop⟩, items'⟩ he
  have moved : Pattern.meanings {} (Pattern.relabelAll f.relabelling items'.reverse) =
      .ok (es'.map (Expr.renumber f.relabelling.number), {}) := by
    refine eq_ok_of_toOption ?_
    rw [Pattern.meanings_relabel f.number_injective, hes']
    rfl
  refine ⟨es'.map (Expr.renumber f.relabelling.number), ⟨h.rows, ?_⟩, (Expr.renumber_row es').symm⟩
  rw [Pattern.relabelAll_eq_map, List.map_reverse] at moved
  have items : (level.join (Level.moved f ⟨start', items', []⟩)).items =
      items'.map (·.relabel f.relabelling) ++ level.items := rfl
  rw [items, List.reverse_append]
  exact Pattern.meanings_append.2 ⟨es, {}, _, h.meaning, moved, rfl⟩

end Level.Means

end ParamTemplate.Regex
