/-
**Levels that have a meaning.**

As long as all items of a level mean something under the flags of the start and leave these flags as
they are, the level has a meaning, with bars or without.  Items that are added to it may be read
anywhere else, in a frame or in a group of their own.

Main definitions:

* `Regex.Pattern.IsSteady` — an expression has a meaning and leaves the flags as they are;
* `Regex.Level.IsSteady` — all items of a level do.

Main results:

* `Regex.Level.isSteady_of_close` — an expression without settings at its top level was read at a
  level that is steady;
* `Regex.Level.IsSteady.push`, `Regex.Level.IsSteady.join` — further items;
* `Regex.Level.IsSteady.close` — **what is read at a steady level has a meaning.**
-/

import ParamTemplate.Proofs.Regex.Reader.Numbering
import ParamTemplate.Proofs.Regex.Reader.Sequence

set_option autoImplicit false

namespace ParamTemplate.Regex

/-! ### Items -/

/-- **Whether an expression has a meaning under the flags of the start,** and leaves them as they
are. -/
def Pattern.IsSteady (p : Pattern) : Prop := ∃ e, p.meaning {} = .ok (e, {})

theorem Pattern.isSteady_of_meaning {p : Pattern} {e : Expr} {flags : Flags}
    (hp : p.directives = []) (h : p.meaning {} = .ok (e, flags)) : p.IsSteady := by
  obtain rfl := Pattern.flags_of_meaning p hp h
  exact ⟨e, h⟩

/-- A group is steady whatever flags are set in it. -/
theorem Pattern.isSteady_group {p : Pattern} {e : Expr} {flags : Flags}
    (h : p.meaning {} = .ok (e, flags)) (span : Span) (number : Nat) :
    (Pattern.group span (.numbered number) p).IsSteady :=
  ⟨.group number e, bind_eq_ok.2 ⟨(e, flags), h, rfl⟩⟩

theorem Pattern.IsSteady.relabel {p : Pattern} (h : p.IsSteady) (f : Frame) :
    (p.relabel f.relabelling).IsSteady := by
  obtain ⟨e, he⟩ := h
  exact ⟨_, (Pattern.meaning_relabel_eq_ok f.number_injective).2 ⟨e, he, rfl⟩⟩

/-- Steady items one after the other have a meaning. -/
theorem Pattern.meanings_of_isSteady {items : List Pattern} (h : ∀ item ∈ items, item.IsSteady) :
    ∃ es, Pattern.meanings {} items = .ok (es, {}) := by
  induction items with
  | nil => exact ⟨[], rfl⟩
  | cons item rest ih =>
      obtain ⟨⟨e, he⟩, hrest⟩ := List.forall_mem_cons.1 h
      obtain ⟨es, hes⟩ := ih hrest
      exact ⟨e :: es, bind_eq_ok.2 ⟨(e, {}), he, bind_eq_ok.2 ⟨(es, {}), hes, rfl⟩⟩⟩

/-- Items that have a meaning one after the other are steady if none of them sets flags. -/
theorem Pattern.isSteady_of_meanings {items : List Pattern} {es : List Expr} {flags : Flags}
    (hd : items.flatMap Pattern.directives = []) (h : Pattern.meanings {} items = .ok (es, flags)) :
    ∀ item ∈ items, item.IsSteady := by
  induction items generalizing es with
  | nil => exact fun _ h => by cases h
  | cons item rest ih =>
      obtain ⟨hitem, hrest⟩ := List.append_eq_nil_iff.1 hd
      obtain ⟨⟨e, inner⟩, he, h⟩ := bind_eq_ok.1 h
      obtain ⟨⟨es, last⟩, hes, h⟩ := bind_eq_ok.1 h
      cases h
      obtain rfl := Pattern.flags_of_meaning item hitem he
      exact List.forall_mem_cons.2 ⟨⟨e, he⟩, ih hrest hes⟩

/-! ### Rows -/

/-- A row of steady items is steady. -/
theorem Row.isSteady_close {row : Row} (h : ∀ item ∈ row.items, item.IsSteady) :
    row.close.IsSteady := by
  obtain ⟨span, items⟩ := row
  match items with
  | [] => exact ⟨.empty, rfl⟩
  | [item] => exact h item (List.mem_singleton_self item)
  | item :: item' :: items =>
      have steady : ∀ i ∈ (item :: item' :: items).reverse, i.IsSteady :=
        fun i hi => h i (List.mem_reverse.1 hi)
      obtain ⟨es, hes⟩ := Pattern.meanings_of_isSteady steady
      exact ⟨.concat es, bind_eq_ok.2 ⟨(es, {}), hes, rfl⟩⟩

/-- The items of a steady row that sets no flags are steady. -/
theorem Row.isSteady_of_close {row : Row} (hd : row.close.directives = [])
    (h : row.close.IsSteady) : ∀ item ∈ row.items, item.IsSteady := by
  obtain ⟨e, he⟩ := h
  obtain ⟨es, hes, -⟩ := Row.meaning_close row he
  rw [Row.gather_close gathers_directives] at hd
  intro item hitem
  exact Pattern.isSteady_of_meanings hd hes item (List.mem_reverse.2 hitem)

/-! ### Levels -/

/-- **Whether all items of a level are steady.** -/
structure Level.IsSteady (level : Level) : Prop where
  items : ∀ item ∈ level.items, item.IsSteady
  rows : ∀ row ∈ level.rows, ∀ item ∈ row.items, item.IsSteady

theorem Level.isSteady_opened (start : Position) : (Level.opened start).IsSteady :=
  ⟨List.forall_mem_nil _, List.forall_mem_nil _⟩

/-- An expression without flag settings at its top level was read at a steady level. -/
theorem Level.isSteady_of_close {level : Level} {stop : Position} {e : Expr} {flags : Flags}
    (hd : (level.close stop).directives = []) (h : (level.close stop).meaning {} = .ok (e, flags)) :
    level.IsSteady := by
  obtain ⟨start, items, rows⟩ := level
  cases rows with
  | nil =>
      have row : ∀ item ∈ (⟨⟨start, stop⟩, items⟩ : Row).items, item.IsSteady :=
        Row.isSteady_of_close hd (Pattern.isSteady_of_meaning hd h)
      exact ⟨row, List.forall_mem_nil _⟩
  | cons row rows =>
      have branches : ∀ row' ∈ (⟨⟨start, stop⟩, items⟩ : Row) :: row :: rows,
          ∀ item ∈ row'.items, item.IsSteady := by
        obtain ⟨⟨es, inner⟩, hes, -⟩ := bind_eq_ok.1 h
        -- No branch sets flags, so each of them begins with those of the start.
        replace hd := (gathers_directives.choice ..).symm.trans hd
        have steady := Pattern.isSteady_of_meanings hd hes
        intro row' hrow'
        have hmem : row'.close ∈ ((⟨⟨start, stop⟩, items⟩ :: row :: rows).reverse.map Row.close) :=
          List.mem_map.2 ⟨row', List.mem_reverse.2 hrow', rfl⟩
        exact Row.isSteady_of_close (List.flatMap_eq_nil_iff.1 hd _ hmem) (steady _ hmem)
      exact ⟨branches _ (List.mem_cons_self ..), fun row' hrow' =>
        branches row' (List.mem_cons_of_mem _ hrow')⟩

namespace Level.IsSteady

variable {level base : Level}

/-- **What is read at a steady level has a meaning.** -/
theorem close (h : level.IsSteady) (stop : Position) : (level.close stop).IsSteady := by
  obtain ⟨start, items, rows⟩ := level
  have last : (⟨⟨start, stop⟩, items⟩ : Row).close.IsSteady := Row.isSteady_close h.items
  cases rows with
  | nil => exact last
  | cons row rows =>
      have branches : ∀ p ∈ (((⟨⟨start, stop⟩, items⟩ : Row) :: row :: rows).reverse.map Row.close),
          p.IsSteady := by
        intro p hp
        obtain ⟨row', hrow', rfl⟩ := List.mem_map.1 hp
        rcases List.mem_cons.1 (List.mem_reverse.1 hrow') with rfl | hrow'
        · exact last
        · exact Row.isSteady_close (h.rows row' hrow')
      obtain ⟨es, hes⟩ := Pattern.meanings_of_isSteady branches
      exact ⟨.choice es, bind_eq_ok.2 ⟨(es, {}), hes, rfl⟩⟩

/-- A further item. -/
theorem push {item : Pattern} (h : level.IsSteady) (hitem : item.IsSteady) :
    (level.push item).IsSteady :=
  ⟨List.forall_mem_cons.2 ⟨hitem, h.items⟩, h.rows⟩

/-- The items at another place. -/
theorem moved (h : level.IsSteady) (f : Frame) : (level.moved f).IsSteady := by
  have map : ∀ items : List Pattern, (∀ item ∈ items, item.IsSteady) →
      ∀ item ∈ items.map (·.relabel f.relabelling), item.IsSteady := by
    intro items hitems item hitem
    obtain ⟨item, hmem, rfl⟩ := List.mem_map.1 hitem
    exact (hitems item hmem).relabel f
  refine ⟨map _ h.items, fun row hrow => ?_⟩
  obtain ⟨row, hmem, rfl⟩ := List.mem_map.1 hrow
  exact map _ (h.rows row hmem)

/-- The items of a level at the end of another one. -/
theorem join (hbase : base.IsSteady) (h : level.IsSteady) : (base.join level).IsSteady := by
  have rows : ∀ rows : List Row, (∀ row ∈ rows, ∀ item ∈ row.items, item.IsSteady) →
      ∀ row ∈ joinRows base rows, ∀ item ∈ row.items, item.IsSteady := by
    intro rows hrows
    induction rows with
    | nil => exact hbase.rows
    | cons row rows ih =>
        obtain ⟨hrow, hrows⟩ := List.forall_mem_cons.1 hrows
        cases rows with
        | nil =>
            refine List.forall_mem_cons.2 ⟨fun item hitem => ?_, hbase.rows⟩
            exact (List.mem_append.1 hitem).elim (hrow item) (hbase.items item)
        | cons row' rows => exact List.forall_mem_cons.2 ⟨hrow, ih hrows⟩
  refine ⟨fun item hitem => ?_, rows _ h.rows⟩
  unfold Level.join at hitem
  dsimp only at hitem
  split at hitem
  · exact (List.mem_append.1 hitem).elim (h.items item) (hbase.items item)
  · exact h.items item hitem

end Level.IsSteady

end ParamTemplate.Regex
