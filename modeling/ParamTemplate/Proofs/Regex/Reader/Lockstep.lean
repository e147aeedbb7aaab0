/-
**Two readers in lockstep.**

Two readers whose states are alike read the same text.  As long as the groups that are opened keep
their numbers, they stay alike, and no name is taken in the second one that is not taken in the
first one, since the groups that are left keep their names.  So at the end both have read an
expression, the second one that of the first one with fewer groups.

Main definition:

* `Regex.Reader.Lockstep` — two readers go on in lockstep.

Main results:

* `Regex.Pattern.groupNames_strip` — the groups that are left keep their names;
* `Regex.Reader.Lockstep.feed` — **a character is read in lockstep**;
* `Regex.Reader.Lockstep.finish` — what comes out of both readers.
-/

import ParamTemplate.Proofs.Regex.Reader.Alike
import ParamTemplate.Proofs.Regex.Reader.Ending
import ParamTemplate.Proofs.Regex.Reader.Numbering

set_option autoImplicit false

namespace ParamTemplate.Regex

open Relation (ReflTransGen)

/-! ### Names -/

/-- A group with its name, under its new number. -/
def renamed (kept : Nat → Option Nat) (entry : Nat × Option (List Char)) :
    Option (Nat × Option (List Char)) := (kept entry.1).map (·, entry.2)

@[simp] theorem filterMap_renamed_some (entries : List (Nat × Option (List Char))) :
    entries.filterMap (renamed some) = entries := by
  have same : renamed some = some := by
    funext entry
    rfl
  rw [same, List.filterMap_some]

section

variable (kept : Nat → Option Nat)

theorem GroupKind.groupNames_strip (kind : GroupKind) :
    (kind.strip kept).groupNames = kind.groupNames.filterMap (renamed kept) := by
  cases kind with
  | plain => rfl
  | numbered index | named index =>
      unfold strip groupNames
      cases h : kept index <;> simp [renamed, h]

mutual

/-- **The groups that are left keep their names.** -/
theorem Pattern.groupNames_strip : (p : Pattern) →
    (p.strip kept).groupNames = p.groupNames.filterMap (renamed kept)
  | .empty _ | .flags .. | .literal _ | .dot _ | .assertion .. | .short .. | .property ..
  | .bracket .. => rfl
  | .repetition _ _ _ _ body => Pattern.groupNames_strip body
  | .group _ kind body => by
      simp only [Pattern.strip, Pattern.groupNames, List.filterMap_append,
        Pattern.groupNames_strip body, kind.groupNames_strip]
  | .choice _ branches => Pattern.allGroupNames_strip branches
  | .sequence _ items => Pattern.allGroupNames_strip items

theorem Pattern.allGroupNames_strip : (items : List Pattern) →
    Pattern.allGroupNames (Pattern.stripAll kept items) =
      (Pattern.allGroupNames items).filterMap (renamed kept)
  | [] => rfl
  | item :: rest => by
      simp only [Pattern.stripAll, Pattern.allGroupNames, List.filterMap_append,
        Pattern.groupNames_strip item, Pattern.allGroupNames_strip rest]

end

end

section

variable (r : Recount)

theorem Level.groupNames_strip (level : Level) : (level.strip r).gather Pattern.groupNames =
    (level.gather Pattern.groupNames).filterMap (renamed r.number) := by
  simp only [gather, Row.gather, strip, Row.strip, ← List.map_reverse, List.flatMap_map,
    List.filterMap_append, List.filterMap_flatMap, Pattern.groupNames_strip]

theorem OpenGroup.groupNames_strip (group : OpenGroup) :
    (group.strip r).groupNames = group.groupNames.filterMap (renamed r.number) := by
  simp only [groupNames, strip, Level.groupNames_strip, GroupKind.groupNames_strip,
    List.filterMap_append]

theorem Reader.groupNames_strip (s : Reader) : (s.strip r).outline.groupNames =
    s.outline.groupNames.filterMap (renamed r.number) := by
  have held : (s.mode.strip r).held = s.mode.held.map (·.strip r.number) := by
    cases s.mode <;> rfl
  simp only [Outline.groupNames, Reader.outline, Reader.strip, held, List.filterMap_append,
    ← List.map_reverse, List.flatMap_map, OpenGroup.groupNames_strip, Level.groupNames_strip,
    List.filterMap_flatMap]
  cases s.mode.held with
  | none => rfl
  | some body =>
      simp only [Option.map_some, Option.elim_some, Pattern.groupNames_strip]

end

/-! ### Lockstep -/

namespace Reader

variable {r : Recount} {s s' t t' : Reader}

/-- **Whether two readers go on in lockstep:** of their states the same is left, and all that is
known of the states of a reader is known of both. -/
structure Lockstep (r : Recount) (s s' : Reader) : Prop where
  alike : Alike r s s'
  fits : s.Fits
  fits' : s'.Fits
  named : s.outline.Named
  named' : s'.outline.Named

theorem groups_le_of_moves {o o' : Outline} (h : ReflTransGen Move o o') : o.groups ≤ o'.groups := by
  induction h with
  | refl => exact Nat.le_refl _
  | tail _ h ih =>
      rcases h.marks with ⟨-, groups, -⟩ | ⟨-, groups, -⟩ <;> omega

/-- Reading opens groups and never takes one back. -/
theorem Reads.groups_le {count : Nat} (h : Reads count s t) : s.groups ≤ t.groups :=
  groups_le_of_moves h.moves

namespace Lockstep

/-- No other names are taken where groups have lost their numbers. -/
theorem names (h : Lockstep r s s') : s'.names.map Prod.fst ⊆ s.names.map Prod.fst := by
  have groupNames : s'.outline.groupNames =
      s.outline.groupNames.filterMap (renamed r.number) := by
    have same := groupNames_strip .all s'
    rw [alike_iff.1 h.alike, groupNames_strip] at same
    rw [same]
    exact (filterMap_renamed_some _).symm
  have named : s.names.map Prod.fst = (s.outline.groupNames.filterMap Prod.snd).reverse := h.named
  have named' : s'.names.map Prod.fst = (s'.outline.groupNames.filterMap Prod.snd).reverse :=
    h.named'
  intro name hname
  rw [named', groupNames, List.mem_reverse, List.mem_filterMap] at hname
  obtain ⟨entry', hentry', hsnd⟩ := hname
  obtain ⟨entry, hentry, hrenamed⟩ := List.mem_filterMap.1 hentry'
  obtain ⟨index, -, rfl⟩ := Option.map_eq_some_iff.1 hrenamed
  rw [named, List.mem_reverse, List.mem_filterMap]
  exact ⟨entry, hentry, hsnd⟩

/-- Both states go on by moves. -/
theorem moves (h : Lockstep r s s') (halike : Alike r t t') (fits : t.Fits) (fits' : t'.Fits)
    (moves : ReflTransGen Move s.outline t.outline)
    (moves' : ReflTransGen Move s'.outline t'.outline) : Lockstep r t t' :=
  ⟨halike, fits, fits', h.named.moves moves, h.named'.moves moves'⟩

theorem isApart (h : Alike r s s') : s'.mode.isApart = s.mode.isApart := by
  have same : ∀ (r : Recount) (mode : Mode), (mode.strip r).isApart = mode.isApart := by
    intro r mode
    cases mode <;> rfl
  rw [← same .all, h.mode, same]

theorem skips (h : Alike r s s') (c : Char) : s'.skips c = s.skips c := by
  have same : ∀ (r : Recount) (mode : Mode), (mode.strip r).skips = mode.skips := by
    intro r mode
    cases mode <;> rfl
  have mode : s'.mode.skips = s.mode.skips := by rw [← same .all, h.mode, same]
  rw [Reader.skips, Reader.skips, mode, h.verbose]

theorem settle {next : Option Char} (h : Lockstep r s s')
    (hkeeps : r.KeepsBetween s.groups t.groups) (ht : s.settle next = .ok t) :
    ∃ t', s'.settle next = .ok t' ∧ Lockstep r t t' := by
  have keeps : ∀ span, s.mode = .groupOpen span → next ≠ some '?' → r.Keeps s.groups := by
    intro span hmode hnext
    rw [Reader.settle, hmode] at ht
    dsimp only at ht
    rw [if_neg hnext] at ht
    cases ht
    exact hkeeps _ (Nat.le_refl _) (Nat.lt_succ_self _)
  have alike : ComeAlike r (s.settle next) (s'.settle next) :=
    comeAlike_of_strip (Reader.settle · next) h.alike (settle_strip r s next keeps)
      (settle_strip .all s' next fun _ _ _ => Recount.keeps_all _)
  obtain ⟨t', ht', halike⟩ := alike.exists_ok ht
  have leads := settle_leads h.fits ht
  have leads' := settle_leads h.fits' ht'
  exact ⟨t', ht', h.moves halike leads.fits leads'.fits leads.moves leads'.moves⟩

theorem take {c : Char} (h : Lockstep r s s') (hkeeps : r.KeepsBetween s.groups t.groups)
    (ht : s.take c = .ok t) : ∃ t', s'.take c = .ok t' ∧ Alike r t t' := by
  have same := h.alike.mode
  cases hmode : s.mode with
  | groupName span start name =>
      rw [hmode] at same
      rw [Reader.take, hmode] at ht
      cases hmode' : s'.mode with
      | groupName span' start' name' =>
          rw [hmode'] at same
          injection same with _ _ hname
          subst hname
          rw [Reader.take, hmode']
          exact h.alike.feedGroupName h.names hkeeps ht
      | _ =>
          rw [hmode'] at same
          cases same
  | _ =>
      have strip : ∀ (r : Recount) (mode : Mode), isGroupName (mode.strip r) = isGroupName mode := by
        intro r mode
        cases mode <;> rfl
      have other : isGroupName s.mode = false := by
        rw [hmode]
        rfl
      have other' : isGroupName s'.mode = false := by rw [← strip .all, same, strip, other]
      have alike : ComeAlike r (s.take c) (s'.take c) := comeAlike_of_strip (Reader.take · c)
        h.alike (take_strip r s c other) (take_strip .all s' c other')
      exact alike.exists_ok ht

theorem keepsBetween_left {u : Reader} (h : r.KeepsBetween s.groups u.groups)
    (hmoves : ReflTransGen Move t.outline u.outline) : r.KeepsBetween s.groups t.groups :=
  fun groups hfirst hlast =>
    h groups hfirst (Nat.lt_of_lt_of_le hlast (groups_le_of_moves hmoves))

theorem keepsBetween_right {u : Reader} (h : r.KeepsBetween s.groups u.groups)
    (hmoves : ReflTransGen Move s.outline t.outline) : r.KeepsBetween t.groups u.groups :=
  fun groups hfirst hlast =>
    h groups (Nat.le_trans (groups_le_of_moves hmoves) hfirst) hlast

theorem advance {c : Char} (h : Lockstep r s s') (hmode : s.mode.isApart = false)
    (hkeeps : r.KeepsBetween s.groups t.groups) (ht : s.advance c = .ok t) :
    ∃ t', s'.advance c = .ok t' ∧ Lockstep r t t' := by
  have hmode' : s'.mode.isApart = false := by rw [isApart h.alike, hmode]
  have reads := advance_reads h.fits hmode ht
  suffices alike : ∃ t', s'.advance c = .ok t' ∧ Alike r t t' by
    obtain ⟨t', ht', halike⟩ := alike
    have reads' := advance_reads h.fits' hmode' ht'
    exact ⟨t', ht', h.moves halike reads.fits reads'.fits reads.moves reads'.moves⟩
  unfold Reader.advance at ht ⊢
  rw [h.alike.comment]
  split at ht
  next hcomment =>
    cases ht
    exact ⟨_, if_pos hcomment, { h.alike with comment := rfl }⟩
  next hcomment =>
    rw [if_neg hcomment, skips h.alike]
    split at ht
    next hskips =>
      cases ht
      exact ⟨_, if_pos hskips, { h.alike with comment := rfl }⟩
    next hskips =>
      rw [if_neg hskips]
      obtain ⟨u, hu, ht⟩ := bind_eq_ok.1 ht
      have settles := settle_settles h.fits hmode hu
      split at ht
      next hskips =>
        cases ht
        have keeps : r.KeepsBetween s.groups u.groups := hkeeps
        obtain ⟨u', hu', h⟩ := h.settle keeps hu
        refine ⟨u'.skip c, bind_eq_ok.2 ⟨u', hu', ?_⟩, { h.alike with comment := rfl }⟩
        rw [skips h.alike, if_pos hskips]
        rfl
      next hskips =>
        obtain ⟨v, hv, ht⟩ := bind_eq_ok.1 ht
        have settles' := settle_settles settles.fits (isApart_of_takes settles.takes) hv
        have taken := take_leads settles'.fits settles'.takes ht
        have keeps := keepsBetween_right hkeeps settles.moves
        obtain ⟨u', hu', h⟩ := h.settle
          (keepsBetween_left hkeeps (settles'.moves.trans taken.moves)) hu
        have hskips' := skips h.alike c
        obtain ⟨v', hv', h⟩ := h.settle (keepsBetween_left keeps taken.moves) hv
        obtain ⟨t', ht', halike⟩ := h.take (keepsBetween_right keeps settles'.moves) ht
        refine ⟨t', bind_eq_ok.2 ⟨u', hu', ?_⟩, halike⟩
        rw [hskips', if_neg hskips]
        exact bind_eq_ok.2 ⟨v', hv', ht'⟩

theorem isAsciiName (h : Alike r s s') :
    Reader.isAsciiName s'.mode = Reader.isAsciiName s.mode := by
  have same : ∀ (r : Recount) (mode : Mode),
      Reader.isAsciiName (mode.strip r) = Reader.isAsciiName mode := by
    intro r mode
    cases mode <;> rfl
  rw [← same .all, h.mode, same]

theorem advanceDash {c : Char} (h : Lockstep r s s') (hmode : Reader.isAsciiName s.mode = false)
    (hkeeps : r.KeepsBetween s.groups t.groups) (ht : s.advanceDash c = .ok t) :
    ∃ t', s'.advanceDash c = .ok t' ∧ Lockstep r t t' := by
  have same := h.alike.mode
  have reads := advanceDash_reads h.fits hmode ht
  cases hm : s.mode with
  | dash atom start blank hash =>
      rw [hm] at same
      cases hm' : s'.mode with
      | dash atom' start' blank' hash' =>
          rw [hm'] at same
          injection same with hatom _ hblank hhash
          subst hblank hhash
          have hmode' : Reader.isAsciiName s'.mode = false := by rw [hm']; rfl
          have both : ∀ {t'}, s'.advanceDash c = .ok t' → Alike r t t' → Lockstep r t t' := by
            intro t' ht' halike
            have reads' := advanceDash_reads h.fits' hmode' ht'
            exact h.moves halike reads.fits reads'.fits reads.moves reads'.moves
          rw [Reader.advanceDash, hm'] at both ⊢
          rw [Reader.advanceDash, hm] at ht
          dsimp only at ht both ⊢
          rw [h.alike.verbose] at both ⊢
          split at ht
          next hskips =>
            rw [if_pos hskips] at both ⊢
            cases ht
            have comment : (if c = '#' then true else s'.comment && c != '\n') =
                (if c = '#' then true else s.comment && c != '\n') := by rw [h.alike.comment]
            refine ⟨_, rfl, both rfl { h.alike with comment, mode := ?_ }⟩
            exact congrArg (fun atom => Mode.dash atom 0 true _) hatom
          next hskips =>
            rw [if_neg hskips]
            obtain ⟨u, hu, ht⟩ := bind_eq_ok.1 ht
            obtain ⟨u', hu', halike⟩ := (h.alike.settleDash hatom).exists_ok hu
            have open' : ∀ {s : Reader}, s.Fits → (∃ atom start blank hash,
                s.mode = .dash atom start blank hash) → s.mode.Plain ∧ s.brackets ≠ [] := by
              rintro s hs ⟨atom, start, blank, hash, hm⟩
              rw [Fits, hm] at hs
              exact ⟨hm ▸ ⟨rfl, fun _ => rfl⟩, hs⟩
            obtain ⟨plain, hb⟩ := open' h.fits ⟨_, _, _, _, hm⟩
            obtain ⟨plain', hb'⟩ := open' h.fits' ⟨_, _, _, _, hm'⟩
            obtain ⟨leads, hapart, -⟩ := settleDash_leads plain hb hu
            obtain ⟨leads', -, -⟩ := settleDash_leads plain' hb' hu'
            have settled := h.moves halike leads.fits leads'.fits leads.moves leads'.moves
            obtain ⟨t', ht', h⟩ := settled.advance hapart (keepsBetween_right hkeeps leads.moves) ht
            exact ⟨t', bind_eq_ok.2 ⟨u', hu', ht'⟩, h⟩
      | _ =>
          rw [hm'] at same
          cases same
  | asciiName =>
      rw [hm] at hmode
      cases hmode
  | _ =>
      have other : ∀ {r : Recount} {s : Reader}, (s.mode.strip r).isApart = false →
          s.mode.isApart = false ∧ s.advanceDash c = s.advance c := by
        intro r s hs
        rw [Reader.advanceDash]
        cases hm : s.mode with
        | asciiName | dash =>
            rw [hm] at hs
            cases hs
        | _ => exact ⟨rfl, rfl⟩
      have apart : (s.mode.strip r).isApart = false := by
        rw [hm]
        rfl
      obtain ⟨hapart, first⟩ := other apart
      rw [← same] at apart
      rw [first] at ht
      rw [(other apart).2]
      exact h.advance hapart hkeeps ht

theorem foldlM_advanceDash {seen : List Char} (h : Lockstep r s s') (hmode : isRereading s.mode)
    (hseen : ∀ c ∈ seen, isClassChar c) (hkeeps : r.KeepsBetween s.groups t.groups)
    (ht : seen.foldlM Reader.advanceDash s = .ok t) :
    ∃ t', seen.foldlM Reader.advanceDash s' = .ok t' ∧ Lockstep r t t' := by
  induction seen generalizing s s' with
  | nil =>
      cases ht
      exact ⟨s', rfl, h⟩
  | cons c seen ih =>
      obtain ⟨hc, hseen'⟩ := List.forall_mem_cons.1 hseen
      obtain ⟨u, hu, ht⟩ := bind_eq_ok.1 ht
      have first : [c].foldlM Reader.advanceDash s = .ok u := bind_eq_ok.2 ⟨u, hu, rfl⟩
      obtain ⟨reads, rereading⟩ :=
        foldlM_advanceDash_reads h.fits hmode (List.forall_mem_singleton.2 hc) first
      obtain ⟨rest, -⟩ := foldlM_advanceDash_reads reads.fits rereading hseen' ht
      obtain ⟨u', hu', h⟩ := h.advanceDash (isAsciiName_of_isRereading hmode)
        (keepsBetween_left hkeeps rest.moves) hu
      obtain ⟨t', ht', h⟩ := ih h rereading hseen' (keepsBetween_right hkeeps reads.moves) ht
      exact ⟨t', bind_eq_ok.2 ⟨u', hu', ht'⟩, h⟩

/-- What looked like the name of a class is read again in lockstep. -/
theorem reread {start start' : Position} {seen : List Char} {c : Char} (h : Lockstep r s s')
    (hm : s.mode = .asciiName start seen) (hm' : s'.mode = .asciiName start' seen)
    (hkeeps : r.KeepsBetween s.groups t.groups) (ht : s.reread start (seen ++ [c]) = .ok t) :
    ∃ t', s'.reread start' (seen ++ [c]) = .ok t' ∧ Lockstep r t t' := by
  have hseen : ∀ d ∈ seen, isClassChar d := by
    have fits := h.fits
    rw [Fits, hm] at fits
    exact fun d => isClassChar_of_mem fits.2.2.1 fits.2.2.2
  have held : s.outline.held = none := by rw [outline, hm]; rfl
  have held' : s'.outline.held = none := by rw [outline, hm']; rfl
  have named := h.named
  have named' := h.named'
  rw [Outline.Named, Outline.groupNames, held] at named
  rw [Outline.Named, Outline.groupNames, held'] at named'
  have opened : Lockstep r
      { s with pos := start + 1, mode := .bracketOpen start false .opening { span := .point start } }
      { s' with
        pos := start' + 1
        mode := .bracketOpen start' false .opening { span := .point start' } } :=
    ⟨{ h.alike with mode := rfl }, trivial, trivial, named, named'⟩
  unfold Reader.reread at ht ⊢
  rw [List.foldlM_append] at ht ⊢
  obtain ⟨u, hu, ht⟩ := bind_eq_ok.1 ht
  obtain ⟨v, hv, ht⟩ := bind_eq_ok.1 ht
  cases ht
  obtain ⟨reads, rereading⟩ := foldlM_advanceDash_reads opened.fits rfl hseen hu
  have hu'mode := isAsciiName_of_isRereading rereading
  have last := advanceDash_reads reads.fits hu'mode hv
  have keeps : r.KeepsBetween u.groups t.groups :=
    fun groups hfirst => hkeeps groups (Nat.le_trans (groups_le_of_moves reads.moves) hfirst)
  obtain ⟨u', hu', h⟩ := opened.foldlM_advanceDash rfl hseen (keepsBetween_left hkeeps last.moves) hu
  obtain ⟨t', ht', h⟩ := h.advanceDash hu'mode keeps hv
  exact ⟨t', bind_eq_ok.2 ⟨u', hu', bind_eq_ok.2 ⟨t', ht', rfl⟩⟩, h⟩

/-- **A character is read in lockstep,** if a group that is opened keeps its number. -/
theorem feed {c : Char} (h : Lockstep r s s') (hkeeps : r.KeepsBetween s.groups t.groups)
    (ht : s.feed c = .ok t) : ∃ t', s'.feed c = .ok t' ∧ Lockstep r t t' := by
  have same := h.alike.mode
  cases hm : s.mode with
  | asciiName start seen =>
      rw [hm] at same
      cases hm' : s'.mode with
      | asciiName start' seen' =>
          rw [hm'] at same
          injection same with _ hseen
          subst hseen
          have reads := feed_reads h.fits ht
          have both : ∀ {t'}, s'.feed c = .ok t' → Alike r t t' → Lockstep r t t' := by
            intro t' ht' halike
            have reads' := feed_reads h.fits' ht'
            exact h.moves halike reads.fits reads'.fits reads.moves reads'.moves
          rw [Reader.feed, hm'] at both ⊢
          rw [Reader.feed, hm] at ht
          dsimp only at ht both ⊢
          cases hclass : asciiClass? (seen' ++ [c]) with
          | some form =>
              rw [hclass] at ht both
              cases ht
              exact ⟨_, rfl, both rfl (Alike.pushBracket { h.alike with mode := rfl } rfl)⟩
          | none =>
              rw [hclass] at ht both
              dsimp only at ht both ⊢
              split at ht
              next hbegins =>
                rw [if_pos hbegins] at both ⊢
                cases ht
                exact ⟨_, rfl, both rfl (h.alike.pass rfl)⟩
              next hbegins =>
                rw [if_neg hbegins]
                exact h.reread hm hm' hkeeps ht
      | _ =>
          rw [hm'] at same
          cases same
  | _ =>
      have other : ∀ {r : Recount} {s : Reader}, Reader.isAsciiName (s.mode.strip r) = false →
          Reader.isAsciiName s.mode = false ∧ s.feed c = s.advanceDash c := by
        intro r s hs
        rw [Reader.feed]
        cases hm : s.mode with
        | asciiName =>
            rw [hm] at hs
            cases hs
        | _ => exact ⟨rfl, rfl⟩
      have ascii : Reader.isAsciiName (s.mode.strip r) = false := by
        rw [hm]
        rfl
      obtain ⟨hascii, first⟩ := other ascii
      rw [← same] at ascii
      rw [first] at ht
      rw [(other ascii).2]
      exact h.advanceDash hascii hkeeps ht

/-- **What comes out of a reader comes out of the other one,** with fewer groups. -/
theorem finish {p : Pattern} (h : Lockstep r s s') (hp : s.finish = .ok p) :
    ∃ p', s'.finish = .ok p' ∧ p.Uncounts r.number p' := by
  have hascii : Reader.isAsciiName s'.mode = false := by
    rw [isAsciiName h.alike, not_asciiName_of_finish h.fits hp]
  obtain ⟨done, rfl⟩ := done_of_finish h.fits hp
  have settled := done.settle s.pos s.comment none nofun nofun
  have keeps : r.KeepsBetween s.groups s.settled.groups := fun groups hfirst hlast => by
    rw [groups_settled] at hlast
    exact absurd hlast (Nat.not_lt.2 hfirst)
  obtain ⟨u', hu', h⟩ := h.settle keeps settled
  have mode : u'.mode = .main := by
    have same := h.alike.mode
    rw [show s.settled.mode = .main from done.mode s.pos s.comment] at same
    cases hm : u'.mode <;> rw [hm] at same <;> cases same
  have stack : u'.stack = [] := by
    have same := h.alike.stack
    rw [stack_settled, done.stack] at same
    exact List.map_eq_nil_iff.1 same
  have close : u'.finishMode = .ok (u'.level.close u'.pos) := by
    rw [finishMode, mode, finishLevel, stack]
  have again : u'.settle none = .ok u' := by rw [Reader.settle, mode]
  refine ⟨u'.level.close u'.pos, ?_, ?_⟩
  · rw [finish_eq hascii]
    exact bind_eq_ok.2 ⟨u', hu', bind_eq_ok.2 ⟨u', again, close⟩⟩
  · have level := u'.level.strip_close (r := .all) u'.pos
    rw [h.alike.level] at level
    exact level.trans (s.settled.level.strip_close s.pos).symm

end Lockstep

end Reader

end ParamTemplate.Regex
