/-
**What is added to an automaton.**

The size of an expression is found by adding its factors one after the other, in the order in which
they are read.  It does not matter for it how texts are joined.

What a set of characters adds depends on the states before it, because states are shared as long as
they are remembered.  Backwards the first range of a byte sequence leads to the end of the set, and
the others lead on to it.  So nothing is shared between byte sequences that begin differently, and a
set of which all do so adds the same everywhere.  A sequence that only has such sets, and is too
large between both ends of a text, is still too large with a text behind it.

Main definitions:

* `Regex.Draft.Knows`, `Regex.Draft.Tidy` — what is remembered while byte sequences are added that
  begin differently;
* `Regex.Load.Steady` — what adds the same everywhere;
* `Regex.Load.addAll` — what is added one after the other;
* `Regex.Expr.loads` — what expressions add, in the order in which they are read.

Main results:

* `Regex.Footprint.withSet_of_nodup` — **byte sequences that begin differently share nothing**;
* `Regex.Expr.exists_automaton?_tied` — the automaton of a tied expression, factor by factor;
* `Regex.Expr.isTooLarge_tied_row` — **what is too large stays so with a text behind it.**
-/

import Mathlib.Algebra.Ring.Nat
import ParamTemplate.Proofs.Regex.Reader.Sequence
import ParamTemplate.Proofs.Regex.Tying
import ParamTemplate.Regex.Footprint

set_option autoImplicit false

namespace ParamTemplate.Regex

/-! ### Sets whose byte sequences begin differently -/

theorem Footprint.add_one_add (f : Footprint) (n : Nat) :
    f + { states := 1 } + { states := n } = f + { states := n + 1 } :=
  Footprint.ext (Nat.add_right_comm ..) rfl rfl

namespace Draft

/-- Whether a state is remembered for what leads out of it. -/
def Knows (draft : Draft) (key : List Nat) : Prop :=
  ∃ place state, draft.memory.find? place = some (key, state)

section

variable {places ranges : Nat} {key : List Nat} {draft : Draft}

/-- A state that is not remembered is a new one. -/
theorem state_of_not_knows (h : ¬draft.Knows key) : draft.state places key ranges =
    (draft.footprint.states, {
      memory := draft.memory.insert (placeOf places key) key draft.footprint.states
      footprint := draft.footprint + { states := 1, ranges } }) := by
  unfold state
  dsimp only
  split
  next key' state hfind =>
    split
    next heq => exact absurd ⟨_, state, heq ▸ hfind⟩ h
    next => rfl
  next => rfl

/-- Only what is new is remembered besides. -/
theorem knows_of_insert {place state : Nat} {footprint : Footprint} {key' : List Nat}
    (h : Knows { memory := draft.memory.insert place key state, footprint } key') :
    key' = key ∨ draft.Knows key' := by
  obtain ⟨other, state', hfind⟩ := h
  rw [Memory.find?_insert] at hfind
  split at hfind
  · cases hfind
    exact .inl rfl
  · exact .inr ⟨other, state', hfind⟩

end

theorem branching_cons (stop : Nat) (range : Nat × Nat) (sequence : Utf8.ByteRanges)
    (draft : Draft) : draft.branching stop (range :: sequence) =
      (draft.state 1000 [stop, range.1, range.2] 0).2.branching
        (draft.state 1000 [stop, range.1, range.2] 0).1 sequence := rfl

/-- **What is remembered while byte sequences are added:** states that lead on to older ones, and of
those that lead to the end only the ones with these ranges. -/
def Tidy (stop : Nat) (starts : List (Nat × Nat)) (draft : Draft) : Prop :=
  ∀ next range, draft.Knows [next, range.1, range.2] →
    next + 1 < draft.footprint.states ∧ (next = stop → range ∈ starts)

namespace Tidy

variable {stop next : Nat} {starts : List (Nat × Nat)} {range : Nat × Nat} {draft : Draft}

/-- **A state that is not remembered is added.** -/
theorem exists_branching_cons (h : draft.Tidy stop starts)
    (hnew : ¬draft.Knows [next, range.1, range.2]) (hnext : next < draft.footprint.states)
    (hstart : next = stop → range ∈ starts) : ∃ draft' : Draft,
      (∀ sequence, draft.branching next (range :: sequence) =
        draft'.branching draft.footprint.states sequence) ∧
      draft'.footprint = draft.footprint + { states := 1 } ∧ draft'.Tidy stop starts := by
  have added := @state_of_not_knows 1000 0 _ _ hnew
  refine ⟨(draft.state 1000 [next, range.1, range.2] 0).2, fun sequence => ?_, ?_,
    fun next' range' hknows => ?_⟩
  · rw [branching_cons, added]
  · rw [added]
  · rw [added] at hknows ⊢
    rcases knows_of_insert hknows with heq | hknows
    · simp only [List.cons.injEq, and_true] at heq
      obtain ⟨rfl, hlo, hhi⟩ := heq
      obtain rfl : range' = range := Prod.ext hlo hhi
      exact ⟨Nat.succ_lt_succ hnext, hstart⟩
    · exact ⟨Nat.lt_succ_of_lt (h next' range' hknows).1, (h next' range' hknows).2⟩

/-- Behind the first state of a byte sequence all states are new. -/
theorem branching_newest (h : draft.Tidy stop starts) (hnext : next + 1 = draft.footprint.states)
    (hstop : stop < next) (sequence : Utf8.ByteRanges) :
    (draft.branching next sequence).2.footprint =
        draft.footprint + { states := sequence.length } ∧
      (draft.branching next sequence).2.Tidy stop starts := by
  induction sequence generalizing next draft with
  | nil => exact ⟨rfl, h⟩
  | cons range sequence ih =>
      -- What is remembered leads on to states before the last one.
      have hnew : ¬draft.Knows [next, range.1, range.2] := fun hknows => by
        have := (h _ _ hknows).1
        omega
      obtain ⟨draft', hbranching, hfootprint, htidy⟩ :=
        h.exists_branching_cons hnew (by omega) (by omega)
      have states := congrArg Footprint.states hfootprint
      obtain ⟨ihfootprint, ihtidy⟩ := ih htidy states.symm (by omega)
      rw [hbranching, ihfootprint, hfootprint, Footprint.add_one_add]
      exact ⟨rfl, ihtidy⟩

/-- **A byte sequence that begins differently is added.** -/
theorem branching (h : draft.Tidy stop starts) (hstop : stop < draft.footprint.states)
    {sequence : Utf8.ByteRanges} (hnew : ∀ range ∈ sequence.head?, range ∉ starts) :
    (draft.branching stop sequence).2.footprint =
        draft.footprint + { states := sequence.length } ∧
      (draft.branching stop sequence).2.Tidy stop (sequence.head?.toList ++ starts) := by
  cases sequence with
  | nil => exact ⟨rfl, h⟩
  | cons range sequence =>
      have started : draft.Tidy stop (range :: starts) := fun next range' hknows =>
        ⟨(h next range' hknows).1, fun hnext =>
          List.mem_cons_of_mem _ ((h next range' hknows).2 hnext)⟩
      have hnew : ¬draft.Knows [stop, range.1, range.2] := fun hknows =>
        hnew range rfl ((h _ _ hknows).2 rfl)
      obtain ⟨draft', hbranching, hfootprint, htidy⟩ :=
        started.exists_branching_cons hnew hstop fun _ => List.mem_cons_self ..
      have states := congrArg Footprint.states hfootprint
      obtain ⟨hrest, hrestTidy⟩ := htidy.branching_newest states.symm hstop sequence
      rw [hbranching, hrest, hfootprint, Footprint.add_one_add]
      exact ⟨rfl, hrestTidy⟩

/-- Byte sequences that begin differently are added one after the other. -/
theorem foldl_branching (h : draft.Tidy stop starts) (hstop : stop < draft.footprint.states)
    {sequences : List Utf8.ByteRanges}
    (hnew : ∀ sequence ∈ sequences, ∀ range ∈ sequence.head?, range ∉ starts)
    (hnodup : (sequences.map List.head?).Nodup) :
    (sequences.foldl (fun draft sequence => (draft.branching stop sequence).2) draft).footprint =
      draft.footprint + { states := (sequences.map List.length).sum } := by
  induction sequences generalizing draft starts with
  | nil => rfl
  | cons sequence sequences ih =>
      obtain ⟨hother, hnodup⟩ := List.nodup_cons.1 hnodup
      obtain ⟨hfirst, hrest⟩ := List.forall_mem_cons.1 hnew
      obtain ⟨hfootprint, htidy⟩ := h.branching hstop hfirst
      rw [List.foldl_cons, ih htidy, hfootprint, Footprint.add_assoc, List.map_cons,
        List.sum_cons]
      · rfl
      · rw [hfootprint]
        exact Nat.lt_add_right _ hstop
      · intro other hmem range hrange hstarts
        rcases List.mem_append.1 hstarts with hsame | hstarts
        · rw [Option.mem_toList] at hsame
          exact hother (List.mem_map.2 ⟨other, hmem, hrange.trans hsame.symm⟩)
        · exact hrest other hmem range hrange hstarts
      · exact hnodup

end Tidy

end Draft

/-- **Byte sequences that begin differently share nothing** backwards. -/
theorem Footprint.withSet_of_nodup {s : CharSet} (h : (s.byteSequences.map List.head?).Nodup)
    (f : Footprint) : f.withSet false s =
      f + { states := 2 + (s.byteSequences.map List.length).sum,
            branches := s.byteSequences.length } := by
  have tidy : Draft.Tidy (f.states + 1) []
      { footprint := f + { states := 2, branches := s.byteSequences.length } } := by
    rintro next range ⟨place, state, hfind⟩
    cases hfind
  have added := tidy.foldl_branching (Nat.lt_succ_self _)
    (fun _ _ _ _ hmem => List.not_mem_nil hmem) h
  rw [withSet, if_neg Bool.false_ne_true]
  exact added.trans (add_assoc ..)

/-! ### What adds the same everywhere -/

namespace Load

/-- **Whether the same is added everywhere.** -/
def Steady (load : Load) : Prop := ∃ g : Footprint, ∀ f, load.run f = f.extend g

theorem steady_fixed (g : Footprint) : (fixed g).Steady := ⟨g, fun _ => rfl⟩

theorem Steady.andThen {first second : Load} (hfirst : first.Steady) (hsecond : second.Steady) :
    (first.andThen second).Steady := by
  obtain ⟨g, hg⟩ := hfirst
  obtain ⟨h, hh⟩ := hsecond
  refine ⟨g + h, fun f => ?_⟩
  rw [run_andThen, hg, funext hh, Footprint.extend_bind_extend]

theorem steady_ofSet {s : CharSet} (h : (s.byteSequences.map List.head?).Nodup) :
    (ofSet false s).Steady := by
  unfold ofSet
  split
  · exact steady_fixed _
  · refine ⟨{ states := 2 + (s.byteSequences.map List.length).sum,
              branches := s.byteSequences.length }, fun f => ?_⟩
    change (f.withSet false s).extend {} = _
    rw [Footprint.withSet_of_nodup h]
    rfl

/-! ### One after the other -/

/-- **Add one after the other,** unless it becomes too large. -/
def addAll : List Load → Footprint → Option Footprint
  | [], f => some f
  | load :: loads, f => (load.run f).bind (addAll loads)

variable {loads before after : List Load}

theorem addAll_append (first second : List Load) :
    addAll (first ++ second) = fun f => (addAll first f).bind (addAll second) := by
  induction first with
  | nil => rfl
  | cons load first ih =>
      funext f
      rw [List.cons_append, addAll, addAll, Option.bind_assoc, ih]

/-- What is too large stays so if there is more before it. -/
theorem addAll_add_eq_none (steady : ∀ load ∈ loads, load.Steady) {f : Footprint}
    (h : addAll loads f = none) (g : Footprint) : addAll loads (f + g) = none := by
  induction loads generalizing f with
  | nil => cases h
  | cons load loads ih =>
      obtain ⟨⟨t, ht⟩, steady⟩ := List.forall_mem_cons.1 steady
      have swap : f + g + t = f + t + g := by
        rw [Footprint.add_assoc, Footprint.add_comm g, ← Footprint.add_assoc]
      rw [addAll, ht] at h ⊢
      unfold Footprint.extend at h ⊢
      rw [swap]
      split
      next fits =>
        rw [if_pos (by rw [Footprint.size_add] at fits; omega)] at h
        exact ih steady h
      next => rfl

/-- **What is too large stays so if something is put in between.** -/
theorem addAll_insert (steady : ∀ load ∈ after, load.Steady) {f : Footprint}
    (h : addAll (before ++ after) f = none) (g : Footprint) :
    addAll (before ++ fixed g :: after) f = none := by
  simp only [addAll_append] at h ⊢
  cases hbefore : addAll before f with
  | none => rfl
  | some f' =>
      rw [hbefore] at h
      change (f'.extend g).bind (addAll after) = none
      unfold Footprint.extend
      split
      · exact addAll_add_eq_none steady h g
      · rfl

end Load

/-! ### Expressions -/

namespace Expr

open Load

variable {e : Expr} {es : List Expr}

/-- **What expressions add,** in the order in which they are read. -/
def loads (forward : Bool) (es : List Expr) : List Load :=
  if forward then es.map (load true .alone) else (es.map (load false .alone)).reverse

theorem addAll_loads_false (e : Expr) (es : List Expr) (f : Footprint) :
    addAll (loads false (e :: es)) f =
      (addAll (loads false es) f).bind (e.load false .alone).run := by
  change addAll (List.reverse (_ :: _)) f = _
  rw [List.reverse_cons, Load.addAll_append]
  exact congrArg _ (funext fun f => Option.bind_fun_some _)

theorem addAll_loads_cons (forward : Bool) (e : Expr) {es es' : List Expr}
    (h : addAll (loads forward es) = addAll (loads forward es')) :
    addAll (loads forward (e :: es)) = addAll (loads forward (e :: es')) := by
  funext f
  cases forward with
  | true => exact congrArg _ h
  | false => rw [addAll_loads_false, addAll_loads_false, h]

/-- Two texts add as much as one. -/
theorem addAll_loads_consFactor (forward : Bool) (e : Expr) (es : List Expr) :
    addAll (loads forward (consFactor e es)) = addAll (loads forward (e :: es)) := by
  unfold consFactor
  split
  next chars more rest =>
    have joined : (Utf8.encode (chars ++ more)).length =
        (Utf8.encode chars).length + (Utf8.encode more).length := by
      rw [← List.length_append]
      exact congrArg _ List.flatMap_append
    funext f
    cases forward with
    | true =>
        change (f.extend { states := (Utf8.encode (chars ++ more)).length }).bind _ =
          (f.extend _).bind fun f => (f.extend _).bind _
        rw [← Option.bind_assoc, Footprint.extend_bind_extend, joined]
        rfl
    | false =>
        rw [addAll_loads_false, addAll_loads_false, addAll_loads_false, Option.bind_assoc]
        refine congrArg _ (funext fun f => ?_)
        change f.extend { states := (Utf8.encode (chars ++ more)).length } =
          (f.extend _).bind (·.extend _)
        rw [Footprint.extend_bind_extend, joined, Nat.add_comm]
        rfl
  next => rfl

theorem addAll_loads_foldr_consFactor (forward : Bool) (es : List Expr) :
    addAll (loads forward (es.foldr consFactor [])) = addAll (loads forward es) := by
  induction es with
  | nil => rfl
  | cons e es ih =>
      rw [List.foldr_cons, addAll_loads_consFactor]
      exact addAll_loads_cons forward e ih

/-- **A concatenation adds what its parts add.** -/
theorem run_load_chain (forward : Bool) (hne : es ≠ []) :
    ((chain es).load forward .alone).run = addAll (loads forward es) := by
  induction es with
  | nil => exact absurd rfl hne
  | cons e es ih =>
      funext f
      cases es with
      | nil => cases forward <;> exact (Option.bind_fun_some _).symm
      | cons e' es =>
          have rest := ih (List.cons_ne_nil _ _)
          cases forward with
          | true =>
              change ((e.load true .alone).andThen ((chain (e' :: es)).load true .alone)).run f = _
              rw [run_andThen, rest]
              rfl
          | false =>
              change (((chain (e' :: es)).load false .alone).andThen (e.load false .alone)).run f = _
              rw [run_andThen, rest, addAll_loads_false e]

/-- What a tied expression adds. -/
theorem run_load_tied (forward : Bool) (e : Expr) : (e.tied.load forward .alone).run =
    addAll (loads forward (look .textStart :: (e.factors ++ [look .textEnd]))) := by
  obtain ⟨rest, htied, hrest⟩ := tied_eq e
  have chained : e.tied = chain (look .textStart :: (rest ++ [look .textEnd])) := by
    rw [htied]
    cases rest <;> rfl
  rw [chained, run_load_chain forward (List.cons_ne_nil _ _), ← hrest]
  exact addAll_loads_cons forward _ (addAll_loads_foldr_consFactor forward _)

/-- **The automaton of a tied expression,** factor by factor. -/
theorem exists_automaton?_tied (forward : Bool) : ∃ before after : List Load,
    (∀ load ∈ after, load.Steady) ∧
      ∀ e : Expr, e.tied.automaton? forward =
        addAll (before ++ (loads forward e.factors ++ after)) {} := by
  have steady (g h : Footprint) : ∀ load ∈ [fixed g, fixed h], load.Steady := by
    simp only [List.mem_cons, List.not_mem_nil, or_false, forall_eq_or_imp, forall_eq,
      steady_fixed, and_self]
  have together (first second : Load) :
      (first.andThen second).run = fun f => (first.run f).bind second.run :=
    funext (run_andThen first second)
  cases forward with
  | true =>
      refine ⟨[fixed { states := 1 }, fixed { states := 1 }, fixed { states := 1 }],
        [fixed { states := 1 }, fixed { states := 2 }], steady _ _, fun e => ?_⟩
      have parts : loads true (look .textStart :: (e.factors ++ [look .textEnd])) =
          fixed { states := 1 } :: (loads true e.factors ++ [fixed { states := 1 }]) := by
        simp [loads, load, closed]
      simp [automaton?, startsAtStart_tied, together, run_load_tied, parts, addAll, addAll_append,
        Option.bind_assoc]
  | false =>
      refine ⟨[fixed { states := 1 }, fixed { states := 1 }],
        [fixed { states := 1 }, fixed { states := 1 }], steady _ _, fun e => ?_⟩
      have parts : loads false (look .textStart :: (e.factors ++ [look .textEnd])) =
          fixed { states := 1 } :: (loads false e.factors ++ [fixed { states := 1 }]) := by
        simp [loads, load, closed]
      simp [automaton?, endsAtEnd_tied, together, run_load_tied, parts, addAll, addAll_append,
        Option.bind_assoc]

/-- A tied expression is too large if it is in one of the two directions. -/
theorem isTooLarge_tied_iff : e.tied.isTooLarge ↔ ∃ forward, e.tied.automaton? forward = none := by
  have hwords : e.tied.isWordlist = false := by
    obtain ⟨rest, htied, -⟩ := tied_eq e
    rw [htied]
    simp [isWordlist, isLookFree]
  rw [isTooLarge, hwords, Bool.not_false, Bool.and_true, Bool.or_eq_true, Option.isNone_iff_eq_none,
    Option.isNone_iff_eq_none, Bool.exists_bool, Or.comm]

/-! ### A text behind a sequence -/

theorem factors_chain (h : ∀ e ∈ es, e.factors = [e]) : (chain es).factors = es := by
  induction es with
  | nil => rfl
  | cons e es ih =>
      obtain ⟨he, hes⟩ := List.forall_mem_cons.1 h
      cases es with
      | nil => exact he
      | cons e' es => exact congrArg (e :: ·) (ih hes)

theorem factors_of_mem_foldr_consFactor (h : ∀ e ∈ es, e.factors = [e]) :
    ∀ e ∈ es.foldr consFactor [], e.factors = [e] := by
  induction es with
  | nil => exact h
  | cons e es ih =>
      obtain ⟨he, hes⟩ := List.forall_mem_cons.1 h
      have rest := ih hes
      rw [List.foldr_cons]
      generalize es.foldr consFactor [] = joined at rest ⊢
      unfold consFactor
      split
      next => exact List.forall_mem_cons.2 ⟨rfl, (List.forall_mem_cons.1 rest).2⟩
      next => exact List.forall_mem_cons.2 ⟨he, rest⟩

/-- A sequence adds what its items add. -/
theorem addAll_loads_row (forward : Bool) (h : ∀ e ∈ es, e.factors = [e]) :
    addAll (loads forward (row es).factors) = addAll (loads forward es) := by
  match es with
  | [] => rfl
  | [e] => rw [row, h e (List.mem_singleton_self e)]
  | e :: e' :: rest =>
      have items : (e :: e' :: rest).flatMap factors = e :: e' :: rest := by
        rw [List.flatMap_congr h, List.flatMap_singleton']
      change addAll (loads forward (concat (e :: e' :: rest)).factors) = _
      rw [concat, items, factors_chain (factors_of_mem_foldr_consFactor h),
        addAll_loads_foldr_consFactor]

/-- **What is too large stays so with a text behind it,** if all items add the same everywhere
backwards. -/
theorem isTooLarge_tied_row (hfactors : ∀ e ∈ es, e.factors = [e])
    (hsteady : ∀ e ∈ es, (e.load false .alone).Steady) (chars : List Char)
    (h : (row es).tied.isTooLarge) : (row (es ++ [text chars])).tied.isTooLarge := by
  rw [isTooLarge_tied_iff] at h ⊢
  obtain ⟨forward, h⟩ := h
  refine ⟨forward, ?_⟩
  obtain ⟨before, after, steady, automaton⟩ := exists_automaton?_tied forward
  have hfactors' : ∀ e ∈ es ++ [text chars], e.factors = [e] :=
    List.forall_mem_append.2 ⟨hfactors, List.forall_mem_singleton.2 rfl⟩
  have items : ∀ items : List Expr, (∀ e ∈ items, e.factors = [e]) →
      (row items).tied.automaton? forward = addAll (before ++ (loads forward items ++ after)) {} :=
    fun items hitems => by
      simp only [automaton, addAll_append, addAll_loads_row forward hitems]
  rw [items es hfactors] at h
  rw [items _ hfactors']
  -- Forwards the text is added behind the items, which may add what they like; backwards it is
  -- added before them.
  cases forward with
  | true =>
      have parts : loads true (es ++ [text chars]) =
          loads true es ++ [fixed { states := (Utf8.encode chars).length }] := by
        simp [loads, load, closed]
      rw [parts, List.append_assoc, ← List.append_assoc]
      rw [← List.append_assoc] at h
      exact addAll_insert steady h _
  | false =>
      have parts : loads false (es ++ [text chars]) =
          fixed { states := (Utf8.encode chars).length } :: loads false es := by
        simp [loads, load, closed]
      rw [parts]
      refine addAll_insert (List.forall_mem_append.2 ⟨fun load hload => ?_, steady⟩) h _
      obtain ⟨e, he, rfl⟩ := List.mem_map.1 (List.mem_reverse.1 hload)
      exact hsteady e he

end Expr

end ParamTemplate.Regex
