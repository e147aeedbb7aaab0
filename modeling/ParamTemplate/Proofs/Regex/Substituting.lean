/-
**Expressions in the place of others.**

The instructions of an expression are made of those of its parts.  So an expression may stand in the
place of another if its parts may stand in the place of the other's parts; of the body of a
repetition it has to be known too whether its matches are never empty, since the instructions of the
repetition depend on it.

Main definition:

* `Regex.Expr.Becomes` — an expression can stand in the place of another.

Main results:

* `Regex.Expr.Becomes.cat`, `Regex.Expr.Becomes.alt`, `Regex.Expr.Becomes.group`,
  `Regex.Expr.Becomes.repetition` — **the parts of an expression may be replaced.**
-/

import ParamTemplate.Proofs.Regex.Exchanging

set_option autoImplicit false

namespace ParamTemplate.Regex

/-! ### The instructions of repetitions -/

section

variable {body : Nat → List Instr} {once : Nat} {greedy consumes : Bool}

theorem copies_zero (start : Nat) : copies body once start 0 = [] := rfl

theorem repetitionCode_some (min m start : Nat) :
    repetitionCode min (some m) greedy consumes body once start =
      copies body once start min ++
        copies (fun here => repeatFork greedy (here + 1)
          (start + min * once + (m - min) * (once + 1)) :: body (here + 1)) (once + 1)
          (start + min * once) (m - min) := by
  unfold repetitionCode
  split
  next _ _ h =>
    cases h
    simp [copies, Nat.add_assoc, Nat.add_comm 1 once]
  next h => cases h
  next h => cases h
  next h =>
    cases h
    rfl

theorem repetitionLength_some (min m : Nat) :
    repetitionLength min (some m) once = min * once + (m - min) * (once + 1) := by
  unfold repetitionLength
  split <;> simp_all

theorem repetitionCode_none (n start : Nat) :
    repetitionCode (n + 1) none greedy consumes body once start =
      copies body once start (n + 1) ++
        [repeatFork greedy (start + n * once) (start + (n + 1) * once + 1)] := rfl

end

namespace Expr

variable {min n m : Nat} {max : Option Nat} {greedy : Bool} {e body left right : Expr}

/-- One repetition more comes first. -/
theorem code_repetition_succ_some :
    (repetition (n + 1) (some m) greedy body).code 0 =
      (cat body (repetition n (some (m - 1)) greedy body)).code 0 := by
  simp only [code, repetitionCode_some, copies_succ, List.append_assoc, Nat.zero_add]
  have hstart : (n + 1) * body.codeLength = body.codeLength + n * body.codeLength := by
    rw [Nat.succ_mul, Nat.add_comm]
  rw [hstart, Nat.sub_sub, Nat.add_comm 1 n]

theorem code_repetition_succ_none :
    (repetition (n + 2) none greedy body).code 0 =
      (cat body (repetition (n + 1) none greedy body)).code 0 := by
  simp only [code, repetitionCode_none, copies_succ body.code _ _ (n + 1), List.append_assoc,
    Nat.zero_add]
  have hstart : (n + 1) * body.codeLength = body.codeLength + n * body.codeLength := by
    rw [Nat.succ_mul, Nat.add_comm]
  have hstop : (n + 1 + 1) * body.codeLength = body.codeLength + (n + 1) * body.codeLength := by
    rw [Nat.succ_mul, Nat.add_comm]
  rw [hstart, hstop, hstart]

/-! ### Parts of expressions -/

theorem code_move (e : Expr) (d : Nat) : (e.code 0).map (Instr.move d) = e.code d := by
  rw [← code_add, Nat.zero_add]

theorem code_cat : (cat left right).code 0 =
    layout [.region (left.code 0), .region (right.code 0)] := by
  simp [code, layout, layoutFrom, Part.codeAt, Part.length, code_move]

theorem code_group {index : Nat} : (group index body).code 0 =
    layout [.single (.save (2 * index)), .region (body.code 0),
      .single (.save (2 * index + 1))] := by
  simp [code, layout, layoutFrom, Part.codeAt, Part.length, code_move, Instr.retarget]

theorem code_alt : (alt left right).code 0 =
    layout [.single (.fork 1 3), .region (left.code 0), .single (.jump 4),
      .region (right.code 0)] := by
  simp [code, layout, layoutFrom, Part.codeAt, Part.length, code_move, Instr.retarget, place,
    Nat.add_assoc, Nat.add_comm, Nat.add_left_comm]

theorem retarget_repeatFork (f : Nat → Nat) (enter leave : Nat) :
    (repeatFork greedy enter leave).retarget f = repeatFork greedy (f enter) (f leave) := by
  cases greedy <;> rfl

theorem code_option : (repetition 0 (some (m + 1)) greedy body).code 0 =
    layout [.single (repeatFork greedy 1 3), .region (body.code 0),
      .region ((repetition 0 (some m) greedy body).code 0)] := by
  have hlength : ((repetition 0 (some m) greedy body).code 0).length =
      m * (body.codeLength + 1) := by
    rw [length_code, codeLength, repetitionLength_some, Nat.zero_mul, Nat.zero_add, Nat.sub_zero]
  have hstop : 1 + body.codeLength + m * (body.codeLength + 1) =
      (m + 1) * (body.codeLength + 1) := by
    rw [Nat.succ_mul]
    omega
  have hplace : place [.single (repeatFork greedy 1 3), .region (body.code 0),
      .region ((repetition 0 (some m) greedy body).code 0)] 3 =
      (m + 1) * (body.codeLength + 1) := by
    simp only [place, List.take_succ_cons, List.take_zero, List.map_cons, List.map_nil,
      List.sum_cons, List.sum_nil, Part.length, hlength, length_code]
    omega
  have hlayout : layout [.single (repeatFork greedy 1 3), .region (body.code 0),
      .region ((repetition 0 (some m) greedy body).code 0)] =
      repeatFork greedy 1 ((m + 1) * (body.codeLength + 1)) :: (body.code 1 ++
        (repetition 0 (some m) greedy body).code (1 + body.codeLength)) := by
    rw [layout, layoutFrom, Part.codeAt, retarget_repeatFork, hplace]
    simp [layoutFrom, Part.codeAt, Part.length, code_move, place]
  rw [hlayout]
  simp only [code, repetitionCode_some, copies_succ, copies_zero, Nat.zero_mul, Nat.sub_zero,
    Nat.zero_add, Nat.add_zero, List.nil_append, hstop, List.cons_append]
  rw [Nat.add_comm 1 body.codeLength]

theorem code_star : (repetition 0 none greedy body).code 0 =
    layout [.single (repeatFork greedy 1 3), .region (body.code 0),
      .single (if body.consumes then .jump 0 else repeatFork greedy 1 3)] := by
  have hplace : ∀ last, place [.single (repeatFork greedy 1 3), .region (body.code 0),
      .single last] 3 = body.codeLength + 2 := by
    intro last
    simp only [place, List.take_succ_cons, List.take_zero, List.map_cons, List.map_nil,
      List.sum_cons, List.sum_nil, Part.length, length_code]
    omega
  have hlayout : ∀ last, layout [.single (repeatFork greedy 1 3), .region (body.code 0),
      .single last] = repeatFork greedy 1 (body.codeLength + 2) :: (body.code 1 ++
        [last.retarget (place [.single (repeatFork greedy 1 3), .region (body.code 0),
          .single last])]) := by
    intro last
    rw [layout, layoutFrom, Part.codeAt, retarget_repeatFork, hplace]
    simp [layoutFrom, Part.codeAt, Part.length, code_move, place]
  rw [hlayout]
  cases h : body.consumes with
  | true => simp [code, repetitionCode, h, Instr.retarget]
  | false =>
      rw [if_neg Bool.false_ne_true, retarget_repeatFork, hplace]
      simp [code, repetitionCode, h, place, Part.length]

theorem code_plus : (repetition 1 none greedy body).code 0 =
    layout [.region (body.code 0), .single (repeatFork greedy 0 2)] := by
  simp [code, repetitionCode, copies, layout, layoutFrom, Part.codeAt, Part.length, code_move,
    retarget_repeatFork, place]

/-! ### Parts of expressions in the place of others -/

/-- **Whether an expression can stand in the place of another,** under other numbers. -/
def Becomes (kept : Nat → Option Nat) (e e' : Expr) : Prop := Replaces kept (e.code 0) (e'.code 0)

variable {kept kept' : Nat → Option Nat} {e e' e'' left' right' : Expr}

@[simp] theorem fits_code {count : Nat} : (Part.region (e.code 0)).Fits count := by
  simpa [Part.Fits] using e.staysIn_code 0

@[simp] theorem fits_fork {count first second : Nat} :
    (Part.single (.fork first second)).Fits count ↔ first ≤ count ∧ second ≤ count := by
  simp [Part.Fits, Instr.targets]

@[simp] theorem fits_jump {count target : Nat} :
    (Part.single (.jump target)).Fits count ↔ target ≤ count := by
  simp [Part.Fits, Instr.targets]

@[simp] theorem fits_save {count slot : Nat} : (Part.single (.save slot)).Fits count :=
  List.forall_mem_nil _

@[simp] theorem fits_repeatFork {count enter leave : Nat} :
    (Part.single (repeatFork greedy enter leave)).Fits count ↔ enter ≤ count ∧ leave ≤ count := by
  cases greedy <;> simp [repeatFork, and_comm]

namespace Becomes

theorem refl (e : Expr) : Becomes some e e := Replaces.refl _

theorem of_code_eq (h : e.code 0 = e'.code 0) : Becomes some e e' := by
  rw [Becomes, h]
  exact .refl _

theorem trans_some (h : Becomes kept e e') (h' : Becomes some e' e'') : Becomes kept e e'' :=
  Replaces.trans_some h h'

/-- Regions in the place of regions. -/
theorem layout {parts parts' : List Part} (h : List.Forall₂ (PartReplaces kept) parts parts')
    (hparts : e.code 0 = Regex.layout parts) (hparts' : e'.code 0 = Regex.layout parts')
    (fits : WellFormed parts) (fits' : WellFormed parts') : Becomes kept e e' := by
  rw [Becomes, hparts, hparts']
  exact .layout h fits fits'

theorem single_repeatFork (greedy : Bool) (enter leave : Nat) :
    PartReplaces kept (.single (repeatFork greedy enter leave))
      (.single (repeatFork greedy enter leave)) := by
  cases greedy <;> exact .single nofun

/-- **The parts of a concatenation may be replaced.** -/
theorem cat (hleft : Becomes kept left left') (hright : Becomes kept right right') :
    Becomes kept (.cat left right) (.cat left' right') := by
  refine layout (.cons (.region hleft) (.cons (.region hright) .nil)) code_cat code_cat ?_ ?_
  · simp [WellFormed]
  · simp [WellFormed]

/-- **The branches of a choice may be replaced.** -/
theorem alt (hleft : Becomes kept left left') (hright : Becomes kept right right') :
    Becomes kept (.alt left right) (.alt left' right') := by
  have hfork : PartReplaces kept (.single (.fork 1 3)) (.single (.fork 1 3)) := .single nofun
  have hjump : PartReplaces kept (.single (.jump 4)) (.single (.jump 4)) := .single nofun
  refine layout (.cons hfork (.cons (.region hleft) (.cons hjump (.cons (.region hright) .nil))))
    code_alt code_alt ?_ ?_
  · simp [WellFormed]
  · simp [WellFormed]

/-- **The body of a group may be replaced,** and the group may get another number. -/
theorem group {index index' : Nat} (hstart : kept (2 * index') = some (2 * index))
    (hstop : kept (2 * index' + 1) = some (2 * index + 1)) (h : Becomes kept e e') :
    Becomes kept (.group index e) (.group index' e') := by
  refine layout (.cons (.save hstart) (.cons (.region h) (.cons (.save hstop) .nil))) code_group
    code_group ?_ ?_
  · simp [WellFormed]
  · simp [WellFormed]

section

variable (h : Becomes kept e e')

include h

theorem star (hconsumes : e.consumes = e'.consumes) (greedy : Bool) :
    Becomes kept (.repetition 0 none greedy e) (.repetition 0 none greedy e') := by
  have hlast : PartReplaces kept
      (.single (if e.consumes then .jump 0 else repeatFork greedy 1 3))
      (.single (if e'.consumes then .jump 0 else repeatFork greedy 1 3)) := by
    rw [hconsumes]
    split
    · exact .single nofun
    · exact single_repeatFork ..
  have hfits : ∀ e : Expr,
      (Part.single (if e.consumes then .jump 0 else repeatFork greedy 1 3)).Fits 3 := by
    intro e
    split <;> simp
  refine layout (.cons (single_repeatFork ..) (.cons (.region h) (.cons hlast .nil))) code_star
    code_star ?_ ?_
  · simp [WellFormed, hfits]
  · simp [WellFormed, hfits]

theorem plus (n : Nat) (greedy : Bool) :
    Becomes kept (.repetition (n + 1) none greedy e) (.repetition (n + 1) none greedy e') := by
  induction n with
  | zero =>
      refine layout (.cons (.region h) (.cons (single_repeatFork ..) .nil)) code_plus code_plus
        ?_ ?_
      · simp [WellFormed]
      · simp [WellFormed]
  | succ n ih =>
      rw [Becomes, code_repetition_succ_none, code_repetition_succ_none]
      exact h.cat ih

theorem options (m : Nat) (greedy : Bool) :
    Becomes kept (.repetition 0 (some m) greedy e) (.repetition 0 (some m) greedy e') := by
  induction m with
  | zero =>
      have hempty : ∀ e : Expr, (Expr.repetition 0 (some 0) greedy e).code 0 = Regex.layout [] := by
        intro e
        simp only [code, repetitionCode_some]
        rfl
      exact layout .nil (hempty e) (hempty e') (by simp [WellFormed]) (by simp [WellFormed])
  | succ m ih =>
      refine layout (.cons (single_repeatFork ..) (.cons (.region h) (.cons (.region ih) .nil)))
        code_option code_option ?_ ?_
      · simp [WellFormed]
      · simp [WellFormed]

/-- **The body of a repetition may be replaced** if both are known to be never empty or neither. -/
theorem repetition (hconsumes : e.consumes = e'.consumes) (min : Nat) (max : Option Nat)
    (greedy : Bool) :
    Becomes kept (.repetition min max greedy e) (.repetition min max greedy e') := by
  cases max with
  | none =>
      cases min with
      | zero => exact h.star hconsumes greedy
      | succ n => exact h.plus n greedy
  | some m =>
      induction min generalizing m with
      | zero => exact h.options m greedy
      | succ n ih =>
          rw [Becomes, code_repetition_succ_some, code_repetition_succ_some]
          exact h.cat (ih _)

end

/-! ### Leaves -/

theorem layoutFrom_single (f : Nat → Nat) (start : Nat) (code : List Instr) :
    layoutFrom f start (code.map .single) = code.map (Instr.retarget f) := by
  induction code generalizing start with
  | nil => rfl
  | cons instr code ih =>
      rw [List.map_cons, layoutFrom, ih]
      rfl

/-- What names no places and remembers none stands in its own place, whatever the numbers. -/
theorem of_plain (htargets : ∀ instr ∈ e.code 0, instr.targets = [])
    (hsave : ∀ instr ∈ e.code 0, ∀ slot, instr ≠ .save slot) : Becomes kept e e := by
  have hretarget : ∀ f, (e.code 0).map (Instr.retarget f) = e.code 0 := by
    intro f
    refine (List.map_congr_left fun instr hinstr => ?_).trans (List.map_id _)
    have htarget := htargets instr hinstr
    cases instr <;> first | rfl | cases htarget
  have hcode : e.code 0 = Regex.layout ((e.code 0).map .single) := by
    rw [Regex.layout, layoutFrom_single, hretarget]
  have hfits : WellFormed ((e.code 0).map .single) := by
    intro part hpart
    obtain ⟨instr, hinstr, rfl⟩ := List.mem_map.1 hpart
    intro target htarget
    rw [htargets instr hinstr] at htarget
    cases htarget
  refine layout ?_ hcode hcode hfits hfits
  rw [List.forall₂_same]
  intro part hpart
  obtain ⟨instr, hinstr, rfl⟩ := List.mem_map.1 hpart
  exact .single (hsave instr hinstr)

theorem empty : Becomes kept .empty .empty := of_plain nofun nofun

theorem text (chars : List Char) : Becomes kept (.text chars) (.text chars) := by
  refine of_plain ?_ ?_
  · intro instr hinstr
    obtain ⟨c, -, rfl⟩ := List.mem_map.1 hinstr
    rfl
  · intro instr hinstr slot
    obtain ⟨c, -, rfl⟩ := List.mem_map.1 hinstr
    nofun

theorem set (ascii : Bool) (s : CharSet) : Becomes kept (.set ascii s) (.set ascii s) :=
  of_plain (by simp [code, Instr.targets]) (by simp [code])

theorem look (k : Look) : Becomes kept (.look k) (.look k) :=
  of_plain (by simp [code, Instr.targets]) (by simp [code])

end Becomes

end Expr

end ParamTemplate.Regex
