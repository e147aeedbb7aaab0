/-
**The search finds a match if there is one.**

The search follows all ways through a program at once.  Two invariants say that it neither invents a
way nor loses one.  Every thread stands at the end of a way from the start of the program, and what
it remembers was remembered on that way.  And settling the threads between two characters marks
places so that no way leads from a marked place to one that is not, unless it reads a character; a
way that goes on therefore goes on from a thread that waits.

Main definitions:

* `Regex.remember` — places of a text put where they are remembered;
* `Regex.Reached` — a thread stands at the end of a way;
* `Regex.Closed` — what is marked leads to nothing but what is marked or waits to be settled.

Main results:

* `Regex.settle_reached`, `Regex.settle_closed` — settling keeps both invariants;
* `Regex.exists_run_of_search` — **a match that is found is a run of the expression**;
* `Regex.isSome_search_iff` — **the search finds a match if and only if there is one**.
-/

import ParamTemplate.Proofs.Regex.Paths

set_option autoImplicit false

namespace ParamTemplate.Regex

/-- Places of a text put where they are remembered, later ones over earlier ones. -/
def remember (slots : Slots) (saves : List Save) : Slots :=
  saves.foldl (fun slots save => slots.setIfInBounds save.1 (some save.2)) slots

@[simp] theorem remember_nil (slots : Slots) : remember slots [] = slots := rfl

theorem remember_append (slots : Slots) (saves rest : List Save) :
    remember slots (saves ++ rest) = remember (remember slots saves) rest := List.foldl_append ..

/-- Nothing is remembered yet. -/
def Program.blank (program : Program) : Slots := Array.replicate program.slotCount none

section

variable {program : Program} {text : List Char}

/-! ### Threads stand at the end of a way -/

/-- **A thread stands at the end of a way** that started somewhere in the text before `here`, and
remembers what was remembered on that way. -/
def Reached (program : Program) (text : List Char) (here : Nat) (thread : Thread) : Prop :=
  ∃ i saves, i ≤ here ∧ Path program.code.toList text (0, i) saves (thread.place, here) ∧
    thread.slots = remember program.blank saves

theorem Reached.start (here : Nat) :
    Reached program text here { place := 0, slots := program.blank } :=
  ⟨here, [], Nat.le_refl here, .refl _, rfl⟩

/-- A thread after a step. -/
theorem Reached.step {here next place : Nat} {thread : Thread} {saves : List Save}
    (h : Reached program text here thread)
    (hstep : Step program.code.toList text (thread.place, here) saves (place, next))
    (hle : here ≤ next) :
    Reached program text next { place, slots := remember thread.slots saves } := by
  obtain ⟨i, before, hi, hpath, hslots⟩ := h
  refine ⟨i, before ++ saves, Nat.le_trans hi hle, hpath.trans (.of_step hstep), ?_⟩
  rw [hslots, remember_append]

/-- A match: a thread at the end of the program, with what it remembers. -/
def Found (program : Program) (text : List Char) (slots : Slots) : Prop :=
  ∃ here thread, here ≤ text.length ∧ Reached program text here thread ∧
    program.code[thread.place]? = some .accept ∧ thread.slots = slots

/-- **Settling threads leaves threads that stand at the end of a way.** -/
theorem settle_reached (marks : Array Bool) {here : Nat} (hhere : here ≤ text.length)
    {settled threads : List Thread} (hsettled : ∀ t ∈ settled, Reached program text here t)
    (hthreads : ∀ t ∈ threads, Reached program text here t) :
    let result := program.settle here (charBefore text here) text[here]? marks settled threads
    (∀ t ∈ result.waiting, Reached program text here t) ∧
      ∀ slots ∈ result.found, Found program text slots := by
  intro result
  fun_induction Program.settle program here (charBefore text here) text[here]? marks settled threads
  case case1 settled => exact ⟨fun t ht => hsettled t (List.mem_reverse.1 ht), nofun⟩
  -- What reads a character waits for it.
  case case2 ih | case3 ih =>
      obtain ⟨hthread, hrest⟩ := List.forall_mem_cons.1 hthreads
      exact ih (List.forall_mem_cons.2 ⟨hthread, hsettled⟩) hrest
  case case4 look hcode hlook ih =>
      obtain ⟨hthread, hrest⟩ := List.forall_mem_cons.1 hthreads
      have next := hthread.step (.look (by simpa using hcode) hlook) (Nat.le_refl here)
      exact ih hsettled (List.forall_mem_cons.2 ⟨next, hrest⟩)
  case case5 ih | case10 ih | case11 ih | case12 ih =>
      exact ih hsettled (List.forall_mem_cons.1 hthreads).2
  case case6 slot hcode slots ih =>
      obtain ⟨hthread, hrest⟩ := List.forall_mem_cons.1 hthreads
      have next := hthread.step (.save here (by simpa using hcode)) (Nat.le_refl here)
      exact ih hsettled (List.forall_mem_cons.2 ⟨next, hrest⟩)
  case case7 first second hcode ih =>
      obtain ⟨hthread, hrest⟩ := List.forall_mem_cons.1 hthreads
      have one := hthread.step (.first here (by simpa using hcode)) (Nat.le_refl here)
      have other := hthread.step (.second here (by simpa using hcode)) (Nat.le_refl here)
      exact ih hsettled (List.forall_mem_cons.2 ⟨one, List.forall_mem_cons.2 ⟨other, hrest⟩⟩)
  case case8 target hcode ih =>
      obtain ⟨hthread, hrest⟩ := List.forall_mem_cons.1 hthreads
      have next := hthread.step (.jump here (by simpa using hcode)) (Nat.le_refl here)
      exact ih hsettled (List.forall_mem_cons.2 ⟨next, hrest⟩)
  case case9 thread rest _ _ _ hcode =>
      refine ⟨fun t ht => hsettled t (List.mem_reverse.1 ht), ?_⟩
      rintro _ ⟨⟩
      exact ⟨here, thread, hhere, (List.forall_mem_cons.1 hthreads).1, hcode, rfl⟩

/-! ### No way is lost -/

/-- **What is marked leads to nothing but what is marked or waits to be settled,** as long as no
character is read; it does not accept, and where it reads a character a thread waits. -/
def Closed (program : Program) (text : List Char) (here : Nat) (marks : Array Bool)
    (settled threads : List Thread) : Prop :=
  ∀ p, marks[p]? = some true →
    program.code[p]? ≠ some .accept ∧
    (∀ instr c, program.code[p]? = some instr → instr.reads c → ∃ t ∈ settled, t.place = p) ∧
    ∀ q saves, Step program.code.toList text (p, here) saves (q, here) → q < marks.size →
      marks[q]? = some true ∨ ∃ t ∈ threads, t.place = q

/-- A thread is settled: its place is marked, and the places that it leads to are those of
threads. -/
theorem Closed.mark {here : Nat} {marks : Array Bool} {settled settled' rest threads : List Thread}
    {thread : Thread} (h : Closed program text here marks settled (thread :: rest))
    (hplace : thread.place < marks.size) (hsettled : settled ⊆ settled') (hrest : rest ⊆ threads)
    (haccept : program.code[thread.place]? ≠ some .accept)
    (hreads : ∀ instr c, program.code[thread.place]? = some instr → instr.reads c →
      ∃ t ∈ settled', t.place = thread.place)
    (hsteps : ∀ q saves, Step program.code.toList text (thread.place, here) saves (q, here) →
      ∃ t ∈ threads, t.place = q) :
    Closed program text here (marks.set thread.place true hplace) settled' threads := by
  intro p hp
  rw [Array.getElem?_set] at hp
  split at hp
  next heq =>
    subst heq
    exact ⟨haccept, hreads, fun q saves hstep _ => .inr (hsteps q saves hstep)⟩
  next hne =>
    obtain ⟨haccept, hreads, hsteps⟩ := h p hp
    refine ⟨haccept, fun instr c hcode hc => ?_, fun q saves hstep hq => ?_⟩
    · obtain ⟨t, ht, hplace⟩ := hreads instr c hcode hc
      exact ⟨t, hsettled ht, hplace⟩
    · rw [Array.size_set] at hq
      rw [Array.getElem?_set]
      split
      · exact .inl rfl
      next hne =>
        rcases hsteps q saves hstep hq with hmarked | ⟨t, ht, rfl⟩
        · exact .inl hmarked
        · rcases List.mem_cons.1 ht with rfl | ht
          · exact absurd rfl hne
          · exact .inr ⟨t, hrest ht, rfl⟩

/-- A thread is settled whose instruction reads no character. -/
theorem Closed.pass {here : Nat} {marks : Array Bool} {settled rest threads : List Thread}
    {thread : Thread} {instr : Instr}
    (h : Closed program text here marks settled (thread :: rest))
    (hplace : thread.place < marks.size) (hcode : program.code[thread.place]? = some instr)
    (haccept : instr ≠ .accept) (hsilent : ∀ c, instr.reads c = false) (hrest : rest ⊆ threads)
    (hsteps : ∀ q saves, Step program.code.toList text (thread.place, here) saves (q, here) →
      ∃ t ∈ threads, t.place = q) :
    Closed program text here (marks.set thread.place true hplace) settled threads := by
  refine h.mark hplace (List.Subset.refl settled) hrest (by simpa [hcode] using haccept) ?_ hsteps
  intro other c hother hc
  cases hcode.symm.trans hother
  simp [hsilent] at hc

/-- A thread at a place that is marked already, or lies outside the program, can be left out. -/
theorem Closed.drop {here : Nat} {marks : Array Bool} {settled rest : List Thread} {thread : Thread}
    (h : Closed program text here marks settled (thread :: rest))
    (hplace : thread.place < marks.size → marks[thread.place]? = some true) :
    Closed program text here marks settled rest := by
  intro p hp
  obtain ⟨haccept, hreads, hsteps⟩ := h p hp
  refine ⟨haccept, hreads, fun q saves hstep hq => ?_⟩
  rcases hsteps q saves hstep hq with hmarked | ⟨t, ht, rfl⟩
  · exact .inl hmarked
  · rcases List.mem_cons.1 ht with rfl | ht
    · exact .inl (hplace hq)
    · exact .inr ⟨t, ht, rfl⟩

/-- What settling threads marks, if it finds no match: all places of threads, and nothing that leads
out of what is marked. -/
structure Marked (program : Program) (text : List Char) (here : Nat) (marks : Array Bool)
    (waiting threads : List Thread) (final : Array Bool) : Prop where
  size : final.size = marks.size
  closed : Closed program text here final waiting []
  mono {p : Nat} : marks[p]? = some true → final[p]? = some true
  threads : ∀ t ∈ threads, t.place < marks.size → final[t.place]? = some true

namespace Marked

variable {here : Nat} {marks final : Array Bool} {waiting rest threads : List Thread}
  {thread : Thread}

/-- The place of a thread is marked first, and then those that it leads to. -/
theorem cons {hplace : thread.place < marks.size}
    (h : Marked program text here (marks.set thread.place true hplace) waiting threads final)
    (hrest : rest ⊆ threads) : Marked program text here marks waiting (thread :: rest) final := by
  have size : final.size = marks.size := by rw [h.size, Array.size_set]
  have mono : ∀ {p}, marks[p]? = some true → final[p]? = some true := fun {p} hp =>
    h.mono (by rw [Array.getElem?_set]; split <;> first | rfl | exact hp)
  have here : final[thread.place]? = some true :=
    h.mono (by rw [Array.getElem?_set, if_pos rfl])
  refine ⟨size, h.closed, mono, fun t ht hsize => ?_⟩
  rcases List.mem_cons.1 ht with rfl | ht
  · exact here
  · exact h.threads t (hrest ht) (by rwa [Array.size_set])

end Marked

/-- **Settling threads without finding a match leaves what is marked closed.** -/
theorem settle_closed {here : Nat} {marks : Array Bool} {settled threads : List Thread}
    (h : Closed program text here marks settled threads)
    (hnone : (program.settle here (charBefore text here) text[here]? marks settled threads).found =
      none) :
    ∃ final, Marked program text here marks
      (program.settle here (charBefore text here) text[here]? marks settled threads).waiting threads
      final := by
  fun_induction Program.settle program here (charBefore text here) text[here]? marks settled threads
  case case1 marks settled =>
      refine ⟨marks, rfl, ?_, id, List.forall_mem_nil _⟩
      intro p hp
      obtain ⟨haccept, hreads, hsteps⟩ := h p hp
      refine ⟨haccept, fun instr c hcode hc => ?_, hsteps⟩
      obtain ⟨t, ht, hplace⟩ := hreads instr c hcode hc
      exact ⟨t, List.mem_reverse.2 ht, hplace⟩
  case case2 thread rest hplace _ _ _ c hcode ih | case3 thread rest hplace _ _ _ c hcode ih =>
      have closed := h.mark hplace (List.subset_cons_self thread _) (List.Subset.refl rest)
        (by simp [hcode]) (fun _ _ _ _ => ⟨thread, List.mem_cons_self, rfl⟩)
        (fun q saves hstep => by cases hstep <;> simp_all)
      obtain ⟨final, hfinal⟩ := ih closed hnone
      exact ⟨final, hfinal.cons (List.Subset.refl rest)⟩
  case case4 thread rest hplace _ _ _ next look hcode hlook ih =>
      have subset := List.subset_cons_self ({ thread with place := next } : Thread) rest
      have closed := h.pass hplace hcode (by simp) (fun _ => rfl) subset
        (fun q saves hstep => by cases hstep <;> simp_all [next])
      obtain ⟨final, hfinal⟩ := ih closed hnone
      exact ⟨final, hfinal.cons subset⟩
  case case5 thread rest hplace _ _ _ look hcode hlook ih =>
      have closed := h.pass hplace hcode (by simp) (fun _ => rfl) (List.Subset.refl rest)
        (fun q saves hstep => by cases hstep <;> simp_all [Look.holdsAt])
      obtain ⟨final, hfinal⟩ := ih closed hnone
      exact ⟨final, hfinal.cons (List.Subset.refl rest)⟩
  case case6 thread rest hplace _ _ _ next slot hcode slots ih =>
      have subset := List.subset_cons_self ({ place := next, slots } : Thread) rest
      have closed := h.pass hplace hcode (by simp) (fun _ => rfl) subset
        (fun q saves hstep => by cases hstep <;> simp_all [next])
      obtain ⟨final, hfinal⟩ := ih closed hnone
      exact ⟨final, hfinal.cons subset⟩
  case case7 thread rest hplace _ _ _ first second hcode ih =>
      have subset := List.Subset.trans
        (List.subset_cons_self { thread with place := second } rest)
        (List.subset_cons_self { thread with place := first } _)
      have closed := h.pass hplace hcode (by simp) (fun _ => rfl) subset
        (fun q saves hstep => by cases hstep <;> simp_all)
      obtain ⟨final, hfinal⟩ := ih closed hnone
      exact ⟨final, hfinal.cons subset⟩
  case case8 thread rest hplace _ _ _ target hcode ih =>
      have subset := List.subset_cons_self ({ thread with place := target } : Thread) rest
      have closed := h.pass hplace hcode (by simp) (fun _ => rfl) subset
        (fun q saves hstep => by cases hstep <;> simp_all)
      obtain ⟨final, hfinal⟩ := ih closed hnone
      exact ⟨final, hfinal.cons subset⟩
  case case9 => cases hnone
  case case10 thread rest hplace _ _ _ hcode ih =>
      have closed := h.mark hplace (List.Subset.refl _) (List.Subset.refl rest)
        (by simp [hcode]) (by simp [hcode])
        (fun q saves hstep => by cases hstep <;> simp_all)
      obtain ⟨final, hfinal⟩ := ih closed hnone
      exact ⟨final, hfinal.cons (List.Subset.refl rest)⟩
  case case11 marks _ thread rest hplace hmarked ih =>
      have hplace' : marks[thread.place]? = some true := by
        rw [Array.getElem?_eq_getElem hplace]
        simpa using hmarked
      obtain ⟨final, hfinal⟩ := ih (h.drop fun _ => hplace') hnone
      refine ⟨final, hfinal.size, hfinal.closed, hfinal.mono, fun t ht hsize => ?_⟩
      rcases List.mem_cons.1 ht with rfl | ht
      · exact hfinal.mono hplace'
      · exact hfinal.threads t ht hsize
  case case12 thread rest hplace ih =>
      obtain ⟨final, hfinal⟩ := ih (h.drop fun hsize => absurd hsize hplace) hnone
      refine ⟨final, hfinal.size, hfinal.closed, hfinal.mono, fun t ht hsize => ?_⟩
      rcases List.mem_cons.1 ht with rfl | ht
      · exact absurd hsize hplace
      · exact hfinal.threads t ht hsize

/-! ### The search -/

theorem Reached.read {here : Nat} {c : Char} {thread next : Thread}
    (h : Reached program text here thread) (hc : text[here]? = some c)
    (hread : program.read? c thread = some next) : Reached program text (here + 1) next := by
  unfold Program.read? at hread
  split at hread
  next hany =>
    cases hread
    obtain ⟨instr, hcode, hreads⟩ := (Option.any_eq_true _ _).1 hany
    exact h.step (.read (by simpa using hcode) hc hreads) (Nat.le_succ here)
  · cases hread

/-- The threads at a place of the text: as long as no match was found, a new one starts there. -/
def threadsAt (program : Program) (threads : List Thread) (best : Option Slots) : List Thread :=
  if best.isSome then threads else threads ++ [{ place := 0, slots := program.blank }]

/-- What comes of settling the threads at a place of the text. -/
def settledAt (program : Program) (text : List Char) (here : Nat) (threads : List Thread)
    (best : Option Slots) : Settled :=
  program.settle here (charBefore text here) text[here]?
    (Array.replicate program.code.size false) [] (threadsAt program threads best)

theorem searchFrom_nil {here : Nat} {threads : List Thread} {best : Option Slots}
    (hrest : text.drop here = []) :
    program.searchFrom here (charBefore text here) threads best [] =
      (settledAt program text here threads best).found.or best := by
  have : ([] : List Char).head? = text[here]? := by rw [← List.head?_drop, hrest]
  rw [Program.searchFrom]
  simp only [this]
  rfl

theorem searchFrom_cons {here : Nat} {threads : List Thread} {best : Option Slots} {c : Char}
    {rest : List Char} (hrest : text.drop here = c :: rest) :
    let settled := settledAt program text here threads best
    let best' := settled.found.or best
    let next := settled.waiting.filterMap (program.read? c)
    program.searchFrom here (charBefore text here) threads best (c :: rest) =
      if next.isEmpty && best'.isSome then best'
      else program.searchFrom (here + 1) (charBefore text (here + 1)) next best' rest := by
  have hc : (c :: rest).head? = text[here]? := by rw [← List.head?_drop, hrest]
  have hbefore : charBefore text (here + 1) = some c := hc.symm
  rw [Program.searchFrom]
  simp only [hc, hbefore]
  rfl

theorem reached_threadsAt {here : Nat} {threads : List Thread} (best : Option Slots)
    (h : ∀ t ∈ threads, Reached program text here t) :
    ∀ t ∈ threadsAt program threads best, Reached program text here t := by
  unfold threadsAt
  split
  · exact h
  · intro t ht
    rcases List.mem_append.1 ht with ht | ht
    · exact h t ht
    · exact List.mem_singleton.1 ht ▸ Reached.start here

/-- Settling the threads at a place keeps what reaches them, and what is found up to there. -/
theorem reached_settledAt {here : Nat} {threads : List Thread} {best : Option Slots}
    (hhere : here ≤ text.length) (hthreads : ∀ t ∈ threads, Reached program text here t)
    (hbest : ∀ slots ∈ best, Found program text slots) :
    (∀ t ∈ (settledAt program text here threads best).waiting, Reached program text here t) ∧
      ∀ slots ∈ (settledAt program text here threads best).found.or best,
        Found program text slots := by
  obtain ⟨hwaiting, hfound⟩ := settle_reached (Array.replicate program.code.size false)
    hhere (List.forall_mem_nil _) (reached_threadsAt best hthreads)
  refine ⟨hwaiting, fun slots hslots => ?_⟩
  rcases Option.or_eq_some_iff.1 hslots with hslots | ⟨_, hslots⟩
  · exact hfound slots hslots
  · exact hbest slots hslots

/-- **What the search finds is a match.** -/
theorem found_of_searchFrom {here : Nat} {threads : List Thread} {best : Option Slots}
    {rest : List Char} (hhere : here ≤ text.length) (hrest : text.drop here = rest)
    (hthreads : ∀ t ∈ threads, Reached program text here t)
    (hbest : ∀ slots ∈ best, Found program text slots) :
    ∀ slots ∈ program.searchFrom here (charBefore text here) threads best rest,
      Found program text slots := by
  induction rest generalizing here threads best with
  | nil =>
      rw [searchFrom_nil hrest]
      exact (reached_settledAt hhere hthreads hbest).2
  | cons c rest ih =>
      obtain ⟨hwaiting, hbest'⟩ := reached_settledAt hhere hthreads hbest
      have hc : text[here]? = some c := by rw [← List.head?_drop, hrest, List.head?_cons]
      rw [searchFrom_cons hrest]
      split
      · exact hbest'
      · refine ih (List.getElem?_eq_some_iff.1 hc).1 ?_ (fun t ht => ?_) hbest'
        · rw [← List.tail_drop, hrest, List.tail_cons]
        · obtain ⟨thread, hthread, hread⟩ := List.mem_filterMap.1 ht
          exact (hwaiting thread hthread).read hc hread

/-- A step reads a character, or stays where it is in the text. -/
theorem Step.reads_or_stays {code : List Instr} {p i : Nat} {saves : List Save} {b : Spot}
    (h : Step code text (p, i) saves b) :
    (∃ instr c, code[p]? = some instr ∧ text[i]? = some c ∧ instr.reads c ∧ b = (p + 1, i + 1)) ∨
      ∃ q, b = (q, i) := by
  cases h with
  | read hcode hc hreads => exact .inl ⟨_, _, hcode, hc, hreads, rfl⟩
  | look | save | first | second | jump => exact .inr ⟨_, rfl⟩

/-- A way to the end of the program starts at one of its places. -/
theorem lt_size_of_rounds {n p i q j : Nat} {saves : List Save}
    (h : Rounds (Step program.code.toList text) n (p, i) saves (q, j))
    (hq : program.code[q]? = some .accept) : p < program.code.size := by
  cases h with
  | zero => exact (Array.getElem?_eq_some_iff.1 hq).1
  | succ first _ =>
      have : ∃ instr, program.code.toList[p]? = some instr := by
        cases first <;> exact ⟨_, ‹_›⟩
      obtain ⟨instr, hinstr⟩ := this
      rw [Array.getElem?_toList] at hinstr
      exact (Array.getElem?_eq_some_iff.1 hinstr).1

/-- **A way on from what is marked goes on from a thread that waits.** -/
theorem exists_waiting {here n p q j : Nat} {marks : Array Bool} {waiting : List Thread}
    {saves : List Save} (h : Closed program text here marks waiting [])
    (hsize : marks.size = program.code.size) (hp : marks[p]? = some true)
    (hway : Rounds (Step program.code.toList text) n (p, here) saves (q, j))
    (hq : program.code[q]? = some .accept) :
    ∃ c thread next, text[here]? = some c ∧ thread ∈ waiting ∧
      program.read? c thread = some next ∧
      ∃ rest, Path program.code.toList text (next.place, here + 1) rest (q, j) := by
  induction n generalizing p saves with
  | zero =>
      cases hway
      exact absurd hq (h _ hp).1
  | succ n ih =>
      cases hway with
      | @succ _ _ next _ _ rest hstep hrest =>
          obtain ⟨haccept, hreads, hsteps⟩ := h p hp
          rcases hstep.reads_or_stays with ⟨instr, c, hcode, hc, hinstr, rfl⟩ | ⟨p', rfl⟩
          · rw [Array.getElem?_toList] at hcode
            obtain ⟨thread, hthread, rfl⟩ := hreads instr c hcode hinstr
            refine ⟨c, thread, { thread with place := thread.place + 1 }, hc, hthread, ?_, rest, n,
              hrest⟩
            simp [Program.read?, hcode, hinstr]
          -- Without reading, the way stays among what is marked.
          · have hplace := lt_size_of_rounds hrest hq
            rcases hsteps _ _ hstep (hsize ▸ hplace) with hmarked | ⟨_, hnone, _⟩
            · exact ih hmarked hrest
            · cases hnone

/-- The search keeps a match that it found. -/
theorem isSome_searchFrom_of_best {here : Nat} {before : Option Char} {threads : List Thread}
    {best : Option Slots} {rest : List Char} (hbest : best.isSome) :
    (program.searchFrom here before threads best rest).isSome := by
  induction rest generalizing here before threads best with
  | nil =>
      rw [Program.searchFrom]
      simp [hbest]
  | cons c rest ih =>
      rw [Program.searchFrom]
      simp only [hbest, if_true]
      split
      · simp [hbest]
      · exact ih (by simp [hbest])

/-- A way from a thread, or from the start of the program, reads the next character if settling the
threads finds no match. -/
theorem exists_next {here p q j : Nat} {threads : List Thread} {saves : List Save}
    (hnone : (settledAt program text here threads none).found = none)
    (hway : Path program.code.toList text (p, here) saves (q, j))
    (hq : program.code[q]? = some .accept)
    (hp : ∃ t ∈ threadsAt program threads none, t.place = p) :
    ∃ c, text[here]? = some c ∧
      ∃ next ∈ (settledAt program text here threads none).waiting.filterMap (program.read? c),
      ∃ rest, Path program.code.toList text (next.place, here + 1) rest (q, j) := by
  obtain ⟨thread, hthread, rfl⟩ := hp
  obtain ⟨n, hway⟩ := hway
  obtain ⟨final, hfinal⟩ :=
    settle_closed (fun p hp => by simp [Array.getElem?_replicate] at hp) hnone
  have hsize : final.size = program.code.size := by rw [hfinal.size, Array.size_replicate]
  have hmarked := hfinal.threads thread hthread
    (by rw [Array.size_replicate]; exact lt_size_of_rounds hway hq)
  obtain ⟨c, waiting, next, hc, hwaiting, hread, hrest⟩ :=
    exists_waiting hfinal.closed hsize hmarked hway hq
  exact ⟨c, hc, next, List.mem_filterMap.2 ⟨waiting, hwaiting, hread⟩, hrest⟩

/-- Where a way may start that the search has still to follow: at a thread, or at the start of the
program at a later place. -/
def Starts (threads : List Thread) (here p i : Nat) : Prop :=
  i = here ∧ (∃ t ∈ threads, t.place = p) ∨ p = 0 ∧ here ≤ i

/-- A way that starts nowhere later starts at one of the threads at hand. -/
theorem Starts.exists_thread {threads : List Thread} {here p i : Nat} (h : Starts threads here p i)
    (hle : i ≤ here) : i = here ∧ ∃ t ∈ threadsAt program threads none, t.place = p := by
  rcases h with ⟨rfl, t, ht, rfl⟩ | ⟨rfl, hhere⟩
  · exact ⟨rfl, t, List.mem_append_left _ ht, rfl⟩
  · exact ⟨Nat.le_antisymm hle hhere, _, List.mem_append_right _ (List.mem_singleton.2 rfl), rfl⟩

/-- **The search finds a match if a way leads to the end of the program,** from a thread or from the
start of the program at a later place. -/
theorem isSome_searchFrom {here p i q j : Nat} {threads : List Thread} {best : Option Slots}
    {rest : List Char} {saves : List Save} (hrest : text.drop here = rest)
    (hway : Path program.code.toList text (p, i) saves (q, j))
    (hq : program.code[q]? = some .accept) (hi : i ≤ text.length)
    (hstart : Starts threads here p i) :
    (program.searchFrom here (charBefore text here) threads best rest).isSome := by
  induction rest generalizing here p i threads best saves with
  | nil =>
      cases best with
      | some slots => exact isSome_searchFrom_of_best rfl
      | none =>
          rw [searchFrom_nil hrest]
          cases hfound : (settledAt program text here threads none).found with
          | some slots => rfl
          | none =>
              have hend : text.length ≤ here := List.drop_eq_nil_iff.1 hrest
              have hc : text[here]? = none := List.getElem?_eq_none hend
              obtain ⟨rfl, hp⟩ := hstart.exists_thread (Nat.le_trans hi hend)
              obtain ⟨c, hc', _⟩ := exists_next hfound hway hq hp
              cases hc.symm.trans hc'
  | cons c rest ih =>
      cases best with
      | some slots => exact isSome_searchFrom_of_best rfl
      | none =>
          have hc : text[here]? = some c := by rw [← List.head?_drop, hrest, List.head?_cons]
          have hrest' : text.drop (here + 1) = rest := by
            rw [← List.tail_drop, hrest, List.tail_cons]
          rw [searchFrom_cons hrest]
          cases hfound : (settledAt program text here threads none).found with
          | some slots =>
              split
              · rfl
              · exact isSome_searchFrom_of_best rfl
          | none =>
              simp only [Option.or_none, Option.isSome_none, Bool.and_false, Bool.false_eq_true,
                if_false]
              -- The way starts later, or it is at the end of the program, or it reads the character.
              by_cases hlater : here < i
              · refine ih hrest' hway hi (.inr ?_)
                rcases hstart with ⟨rfl, _⟩ | ⟨hp, _⟩
                · exact absurd hlater (Nat.lt_irrefl i)
                · exact ⟨hp, hlater⟩
              · obtain ⟨rfl, hp⟩ := hstart.exists_thread (Nat.le_of_not_lt hlater)
                obtain ⟨c', hc', next, hnext, _, hway'⟩ := exists_next hfound hway hq hp
                cases hc.symm.trans hc'
                exact ih hrest' hway' (List.getElem?_eq_some_iff.1 hc).1
                  (.inl ⟨rfl, next, hnext, rfl⟩)

end

/-! ### Expressions -/

namespace Expr

variable {e : Expr} {text : List Char}

/-- The code of an expression does not accept. -/
theorem accept_not_mem_code (start : Nat) : Instr.accept ∉ e.code start := by
  induction e generalizing start with
  | empty | text | set | look => simp [code]
  | group index body ih => simp [code, ih]
  | repetition min max greedy body ih =>
      unfold code repetitionCode repeatFork
      split <;> simp [ih, copies] <;> grind
  | cat left right ihl ihr => simp [code, ihl, ihr]
  | alt left right ihl ihr => simp [code, ihl, ihr]

/-- The instructions of a program are those of the whole match as a group, and one that accepts. -/
theorem toList_code_program : e.program.code.toList = (group 0 e).code 0 ++ [.accept] := by
  simp [program, wholeCode, code]

theorem eq_of_accept {p : Nat} (h : e.program.code[p]? = some .accept) :
    p = (group 0 e).codeLength := by
  rw [← Array.getElem?_toList, toList_code_program] at h
  rcases Nat.lt_or_ge p ((group 0 e).code 0).length with hlt | hge
  · rw [List.getElem?_append_left hlt] at h
    exact absurd (List.mem_of_getElem? h) (accept_not_mem_code 0)
  · rw [List.getElem?_append_right hge] at h
    rw [length_code] at h hge
    have := (List.getElem?_eq_some_iff.1 h).1
    rw [List.length_singleton] at this
    omega

theorem carries_program :
    Carries e.program.code.toList text 0 (group 0 e).codeLength ((group 0 e).Run text) := by
  have hcode : (group 0 e).code 0 <+: e.program.code.toList.drop 0 := by
    rw [toList_code_program]
    exact List.prefix_append _ _
  have carries : Carries e.program.code.toList text 0 (0 + (group 0 e).codeLength)
      ((group 0 e).Run text) := carries_code hcode
  rwa [Nat.zero_add] at carries

/-- **A match that is found is a run of the expression,** as the group 0. -/
theorem exists_run_of_search {slots : Slots} (h : e.program.search text = some slots) :
    ∃ i saves j, i ≤ text.length ∧ (group 0 e).Run text i saves j ∧
      slots = remember e.program.blank saves := by
  obtain ⟨here, thread, hhere, ⟨i, saves, hi, ⟨n, hway⟩, hslots⟩, haccept, rfl⟩ :=
    found_of_searchFrom (Nat.zero_le _) rfl (List.forall_mem_nil _) (fun _ h => by cases h) slots h
  have hplace := eq_of_accept haccept
  obtain ⟨m, k, first, rest, _, hrun, hend, rfl⟩ :=
    carries_program.cut hway (Nat.le_of_eq hplace.symm)
  rw [← hplace] at hend
  obtain rfl : rest = [] := by
    cases hend with
    | zero => rfl
    | succ hstep _ => exact absurd hstep (not_step_accept (by rwa [Array.getElem?_toList]))
  exact ⟨i, first, k, Nat.le_trans hi hhere, hrun, by rw [hslots, List.append_nil]⟩

/-- **The search finds a match if and only if there is one.** -/
theorem isSome_search_iff :
    (e.program.search text).isSome ↔ ∃ i j, i ≤ text.length ∧ e.Matches text i j := by
  constructor
  · intro h
    obtain ⟨slots, hslots⟩ := Option.isSome_iff_exists.1 h
    obtain ⟨i, saves, j, hi, ⟨inner, hrun, _⟩, _⟩ := exists_run_of_search hslots
    exact ⟨i, j, hi, inner, hrun⟩
  · rintro ⟨i, j, hi, saves, hrun⟩
    have haccept : e.program.code[(group 0 e).codeLength]? = some .accept := by
      rw [← Array.getElem?_toList, toList_code_program, List.getElem?_append_right (by simp)]
      simp
    exact isSome_searchFrom rfl (carries_program.path ⟨saves, hrun, rfl⟩) haccept hi
      (.inr ⟨rfl, Nat.zero_le i⟩)

end Expr

end ParamTemplate.Regex
