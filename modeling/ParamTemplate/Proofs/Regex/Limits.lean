/-
**What is accepted, and what is refused for a limit only.**

An accepted expression is an expression on its own: it comes out of a state, and it has a meaning.
An expression that can be read and that has a meaning may still be refused, because it is nested too
deeply or because it becomes too large.  These are the limits.

Main definitions:

* `Regex.Accepted` — what is known of an accepted expression;
* `Regex.Error.fault?` — what is wrong with an expression that is refused;
* `Regex.Error.IsLimit` — an expression is refused because it exceeds a limit.

Main results:

* `Regex.exists_accepted`, `Regex.Reader.Alone.accepted` — **how an accepted expression is read**;
* `Regex.compile_of_alone` — **an expression with a meaning is accepted, unless it exceeds a
  limit.**
-/

import ParamTemplate.Proofs.Regex.Groups
import ParamTemplate.Proofs.Regex.Reader.Joining

set_option autoImplicit false

namespace ParamTemplate.Regex

variable {source : List Char} {regex : Regex} {s : Reader} {p : Pattern} {e : Expr} {flags : Flags}

/-! ### Accepted expressions -/

/-- **What is known of an accepted expression:** it comes out of a state, it is not too deep to be
read, and it has a meaning. -/
structure Accepted (source : List Char) (regex : Regex) (s : Reader) (p : Pattern) : Prop where
  alone : Reader.Alone source s p
  read : Pattern.read source = .ok p
  meaning : ∃ flags, p.meaning {} = .ok (regex.expr, flags)

theorem exists_accepted (h : compile source = .ok regex) : ∃ s p, Accepted source regex s p := by
  obtain ⟨p, flags, hread, hmeaning⟩ := read_of_compile h
  obtain ⟨⟨s, hs⟩, -⟩ := Reader.exists_alone hread
  exact ⟨s, p, hs, hread, flags, hmeaning⟩

/-- An expression that comes out of an accepted text is the one that was accepted. -/
theorem Reader.Alone.accepted (h : Reader.Alone source s p) (hcompile : compile source = .ok regex) :
    Accepted source regex s p := by
  obtain ⟨t, q, hq⟩ := exists_accepted hcompile
  obtain rfl := h.eq hq.alone
  exact ⟨h, hq.read, hq.meaning⟩

theorem Accepted.tooDeep? (h : Accepted source regex s p) : p.tooDeep? 0 = none :=
  (Reader.exists_alone h.read).2

/-! ### Limits -/

/-- What is wrong with an expression that is refused before its size is looked at. -/
def Error.fault? : Error → Option Fault
  | refused _ complaint => some complaint.fault
  | tooLarge => none

/-- **Whether an expression is refused because it exceeds a limit,** that of its depth or that of
its size. -/
def Error.IsLimit (error : Error) : Prop :=
  error.fault? = some .nestLimitExceeded ∨ error.fault? = none

instance (error : Error) : Decidable error.IsLimit := inferInstanceAs (Decidable (_ ∨ _))

/-- A text from which an expression comes is read, unless the expression is too deep. -/
theorem Reader.Alone.read_or (h : Reader.Alone source s p) : Pattern.read source = .ok p ∨
    ∃ span, Pattern.read source = .error { fault := .nestLimitExceeded, span } := by
  cases hdeep : p.tooDeep? 0 with
  | none => exact .inl (h.read hdeep)
  | some span =>
      refine .inr ⟨span, ?_⟩
      have feed : Reader.feedAll {} source = .ok s := h.feed
      have finish : s.finish = .ok p := h.finish
      simp only [Pattern.read, feed, finish, hdeep, bind, Except.bind]

/-- **An expression with a meaning is accepted, unless it exceeds a limit.** -/
theorem compile_of_alone (h : Reader.Alone source s p) (he : p.meaning {} = .ok (e, flags)) :
    (∃ regex, compile source = .ok regex ∧ regex.expr = e) ∨
      ∃ cause, compile source = .error cause ∧ cause.IsLimit := by
  rcases h.read_or with hread | ⟨span, hread⟩
  · exact (compile_of_read hread he).imp_right fun ⟨_, hlarge⟩ => ⟨_, hlarge, .inr rfl⟩
  · exact .inr ⟨_, compile_of_error (Expr.read_of_error hread), .inl rfl⟩

end ParamTemplate.Regex
