/-
**Sets of characters as sorted cuts.**

A set of code points is written as the increasing list of the points at which membership changes:
the list `[97, 123]` is the set of the letters `a` to `z`, and `[97]` is everything from `a` on.
Every Boolean operation on sets is then one sweep over two lists of cuts (`CharSet.combine`), and
the list is a normal form.

Main definitions:

* `CharSet` — the sorted cuts;
* `CharSet.combine` — the set of the points at which a Boolean operation of two sets holds; union,
  intersection, difference, symmetric difference and complement are instances;
* `CharSet.contains` — membership;
* `CharSet.ranges` — the maximal intervals of a set, ends included;
* `CharSet.ofGaps`, `CharSet.decode` — a set from the distances between its cuts, as numbers and as
  hexadecimal text, the form in which tables are kept.

Main statements:

* `CharSet.contains_combine` — combining sets combines their membership tests;
* `CharSet.contains_interval` — an interval holds exactly the points between its ends.
-/

set_option relaxedAutoImplicit false
set_option autoImplicit false

namespace ParamTemplate

/-- A set of code points, as the increasing list of the points where membership changes. -/
structure CharSet where
  cuts : List Nat
  sorted : cuts.Pairwise (· < ·)
deriving DecidableEq

namespace CharSet

/-! ### Membership -/

/-- Whether `n` lies inside, when `inside` tells of the points before the first cut. -/
def insideAt (n : Nat) : Bool → List Nat → Bool
  | inside, [] => inside
  | inside, x :: xs => if n < x then inside else insideAt n (!inside) xs

/-- Whether the code point `n` belongs to the set. -/
def containsCode (s : CharSet) (n : Nat) : Bool := insideAt n false s.cuts

/-- Whether the character `c` belongs to the set. -/
def contains (s : CharSet) (c : Char) : Bool := s.containsCode c.toNat

theorem insideAt_eq_of_lt {n : Nat} {b : Bool} {xs : List Nat} (h : ∀ x ∈ xs, n < x) :
    insideAt n b xs = b := by
  cases xs with
  | nil => rfl
  | cons x xs => simp [insideAt, h x]

/-! ### Combining two sets in one sweep -/

/-- Put the cut `x` in front of `cuts` where the membership changes from `before` to `after`. -/
def cutAt (before after : Bool) (x : Nat) (cuts : List Nat) : List Nat :=
  if before = after then cuts else x :: cuts

/-- The cuts of the points at which `op` holds of the two memberships, where `a` and `b` are the
memberships before the first cuts of `xs` and `ys`. -/
def sweep (op : Bool → Bool → Bool) : Bool → Bool → List Nat → List Nat → List Nat
  | _, _, [], [] => []
  | a, b, x :: xs, [] => cutAt (op a b) (op (!a) b) x (sweep op (!a) b xs [])
  | a, b, [], y :: ys => cutAt (op a b) (op a (!b)) y (sweep op a (!b) [] ys)
  | a, b, x :: xs, y :: ys =>
      if x < y then cutAt (op a b) (op (!a) b) x (sweep op (!a) b xs (y :: ys))
      else if y < x then cutAt (op a b) (op a (!b)) y (sweep op a (!b) (x :: xs) ys)
      else cutAt (op a b) (op (!a) (!b)) x (sweep op (!a) (!b) xs ys)
  termination_by _ _ xs ys => xs.length + ys.length

theorem mem_of_mem_cutAt {p q : Bool} {n x : Nat} {cuts : List Nat} (h : n ∈ cutAt p q x cuts) :
    n = x ∨ n ∈ cuts := by
  unfold cutAt at h; split at h <;> simp_all

theorem mem_of_mem_sweep {op : Bool → Bool → Bool} {n : Nat} {a b : Bool} {xs ys : List Nat}
    (h : n ∈ sweep op a b xs ys) : n ∈ xs ∨ n ∈ ys := by
  fun_induction sweep op a b xs ys <;> grind [→ mem_of_mem_cutAt]

theorem sorted_cutAt {p q : Bool} {x : Nat} {cuts : List Nat} (h : cuts.Pairwise (· < ·))
    (hx : ∀ n ∈ cuts, x < n) : (cutAt p q x cuts).Pairwise (· < ·) := by
  unfold cutAt; split
  · exact h
  · exact List.pairwise_cons.2 ⟨hx, h⟩

theorem sorted_sweep {op : Bool → Bool → Bool} {a b : Bool} {xs ys : List Nat}
    (hx : xs.Pairwise (· < ·)) (hy : ys.Pairwise (· < ·)) :
    (sweep op a b xs ys).Pairwise (· < ·) := by
  fun_induction sweep op a b xs ys
  case case1 => simp
  all_goals
    apply sorted_cutAt <;> grind [List.pairwise_cons, → mem_of_mem_sweep]

/-- Beyond a cut the membership is the one after it. -/
theorem insideAt_cutAt {p q : Bool} {n x : Nat} {cuts : List Nat} (h : x ≤ n) :
    insideAt n p (cutAt p q x cuts) = insideAt n q cuts := by
  unfold cutAt; split
  · simp_all
  · have : (!p) = q := by cases p <;> cases q <;> simp_all
    simp [insideAt, Nat.not_lt.2 h, this]

theorem insideAt_sweep_of_lt (op : Bool → Bool → Bool) {n : Nat} (a b : Bool) {xs ys : List Nat}
    (hx : ∀ x ∈ xs, n < x) (hy : ∀ y ∈ ys, n < y) :
    insideAt n (op a b) (sweep op a b xs ys) = op (insideAt n a xs) (insideAt n b ys) := by
  rw [insideAt_eq_of_lt hx, insideAt_eq_of_lt hy, insideAt_eq_of_lt]
  exact fun z hz => (mem_of_mem_sweep hz).elim (hx z) (hy z)

theorem lt_of_mem_of_lt_head {n x : Nat} {xs : List Nat} (h : (x :: xs).Pairwise (· < ·))
    (hn : n < x) : ∀ z ∈ x :: xs, n < z := by
  intro z hz
  rcases List.mem_cons.1 hz with rfl | hz
  · exact hn
  · exact Nat.lt_trans hn ((List.pairwise_cons.1 h).1 z hz)

theorem insideAt_sweep {op : Bool → Bool → Bool} {n : Nat} {a b : Bool} {xs ys : List Nat}
    (hx : xs.Pairwise (· < ·)) (hy : ys.Pairwise (· < ·)) :
    insideAt n (op a b) (sweep op a b xs ys) = op (insideAt n a xs) (insideAt n b ys) := by
  fun_induction sweep op a b xs ys with
  | case1 => rfl
  | case2 a b x xs ih =>
      by_cases h : n < x
      · have := insideAt_sweep_of_lt op a b (lt_of_mem_of_lt_head hx h) (List.forall_mem_nil _)
        simpa [sweep] using this
      · rw [insideAt_cutAt (by omega), ih hx.of_cons hy]
        simp [insideAt, h]
  | case3 a b y ys ih =>
      by_cases h : n < y
      · have := insideAt_sweep_of_lt op a b (List.forall_mem_nil _)
          (lt_of_mem_of_lt_head hy h)
        simpa [sweep] using this
      · rw [insideAt_cutAt (by omega), ih hx hy.of_cons]
        simp [insideAt, h]
  | case4 a b x xs y ys hxy ih =>
      by_cases h : n < x
      · have := insideAt_sweep_of_lt op a b (lt_of_mem_of_lt_head hx h)
          (lt_of_mem_of_lt_head hy (Nat.lt_trans h hxy))
        simpa [sweep, hxy] using this
      · rw [insideAt_cutAt (by omega), ih hx.of_cons hy]
        simp [insideAt, h]
  | case5 a b x xs y ys hxy hyx ih =>
      by_cases h : n < y
      · have := insideAt_sweep_of_lt op a b
          (lt_of_mem_of_lt_head hx (Nat.lt_trans h hyx)) (lt_of_mem_of_lt_head hy h)
        simpa [sweep, hxy, hyx] using this
      · rw [insideAt_cutAt (by omega), ih hx hy.of_cons]
        simp [insideAt, h]
  | case6 a b x xs y ys hxy hyx ih =>
      obtain rfl : x = y := by omega
      by_cases h : n < x
      · have := insideAt_sweep_of_lt op a b (lt_of_mem_of_lt_head hx h)
          (lt_of_mem_of_lt_head hy h)
        simpa [sweep] using this
      · rw [insideAt_cutAt (by omega), ih hx.of_cons hy.of_cons]
        simp [insideAt, h]

/-- The set of the points at which `op` holds of the memberships in `s` and in `t`.  Below the first
cuts a point belongs to neither set, so `op false false` has to be `false`. -/
def combine (op : Bool → Bool → Bool) (s t : CharSet) : CharSet where
  cuts := sweep op false false s.cuts t.cuts
  sorted := sorted_sweep s.sorted t.sorted

theorem containsCode_combine {op : Bool → Bool → Bool} (h : op false false = false) (s t : CharSet)
    (n : Nat) : (combine op s t).containsCode n = op (s.containsCode n) (t.containsCode n) := by
  have key : insideAt n (op false false) (sweep op false false s.cuts t.cuts) =
      op (insideAt n false s.cuts) (insideAt n false t.cuts) := insideAt_sweep s.sorted t.sorted
  rwa [h] at key

def union : CharSet → CharSet → CharSet := combine (· || ·)
def inter : CharSet → CharSet → CharSet := combine (· && ·)
def diff : CharSet → CharSet → CharSet := combine fun a b => a && !b
def symmDiff : CharSet → CharSet → CharSet := combine xor

@[simp] theorem contains_union (s t : CharSet) (c : Char) :
    (s.union t).contains c = (s.contains c || t.contains c) := containsCode_combine rfl ..

@[simp] theorem contains_inter (s t : CharSet) (c : Char) :
    (s.inter t).contains c = (s.contains c && t.contains c) := containsCode_combine rfl ..

@[simp] theorem contains_diff (s t : CharSet) (c : Char) :
    (s.diff t).contains c = (s.contains c && !t.contains c) := containsCode_combine rfl ..

@[simp] theorem contains_symmDiff (s t : CharSet) (c : Char) :
    (s.symmDiff t).contains c = xor (s.contains c) (t.contains c) := containsCode_combine rfl ..

/-! ### Intervals, the full set and complements -/

theorem sorted_nil : ([] : List Nat).Pairwise (· < ·) := .nil

theorem sorted_pair {lo hi : Nat} (h : lo ≤ hi) : [lo, hi + 1].Pairwise (· < ·) :=
  List.pairwise_pair.2 (Nat.lt_succ_of_le h)

/-- The code points from `lo` to `hi`, both included. -/
def interval (lo hi : Nat) : CharSet :=
  if h : lo ≤ hi then ⟨[lo, hi + 1], sorted_pair h⟩ else ⟨[], sorted_nil⟩

@[simp] theorem containsCode_interval (lo hi n : Nat) :
    (interval lo hi).containsCode n = decide (lo ≤ n ∧ n ≤ hi) := by
  unfold interval containsCode
  split <;> simp [insideAt] <;> grind

/-- The set without points. -/
def empty : CharSet := ⟨[], sorted_nil⟩

/-- The set of one character. -/
def single (c : Char) : CharSet := interval c.toNat c.toNat

/-- All characters. -/
def full : CharSet := interval 0 0x10FFFF

/-- The characters that do not belong to the set. -/
def compl (s : CharSet) : CharSet := full.diff s

@[simp] theorem contains_single (c d : Char) : (single c).contains d = decide (d = c) := by
  simp only [contains, single, containsCode_interval, ← Char.toNat_inj]
  grind

/-- The largest code point. -/
theorem toNat_le (c : Char) : c.toNat ≤ 0x10FFFF := by
  have := c.valid
  simp only [UInt32.isValidChar, Nat.isValidChar, Char.toNat] at this ⊢
  omega

@[simp] theorem contains_full (c : Char) : full.contains c = true := by
  simp [contains, full, containsCode_interval, toNat_le]

@[simp] theorem contains_compl (s : CharSet) (c : Char) : s.compl.contains c = !s.contains c := by
  simp [compl]

/-- The union of a list of sets. -/
def unions (sets : List CharSet) : CharSet := sets.foldl union empty

/-- The set of the code points of a list of intervals, ends included. -/
def ofRanges (ranges : List (Nat × Nat)) : CharSet := unions (ranges.map fun r => interval r.1 r.2)

/-! ### Reading a set off its cuts -/

/-- The maximal intervals of code points, ends included.  A last cut without a partner reaches to
the end of the code space. -/
def pairUp : List Nat → List (Nat × Nat)
  | lo :: hi :: rest => (lo, hi - 1) :: pairUp rest
  | [lo] => [(lo, 0x10FFFF)]
  | [] => []

/-- The maximal intervals of the set, in increasing order. -/
def ranges (s : CharSet) : List (Nat × Nat) := pairUp s.cuts

/-- Whether the set has no point. -/
def isEmpty (s : CharSet) : Bool := s.cuts.isEmpty

/-- Whether the set holds ASCII characters only. -/
def isAscii (s : CharSet) : Bool := s.ranges.all fun r => r.2 < 0x80

/-- The only character of a set that has one. -/
def single? (s : CharSet) : Option Char :=
  match s.ranges with
  | [(lo, hi)] => if lo = hi ∧ lo.isValidChar then some (Char.ofNat lo) else none
  | _ => none

theorem toNat_ofNat {n : Nat} (h : n.isValidChar) : (Char.ofNat n).toNat = n := by
  rw [Char.ofNat, dif_pos h]
  rfl

/-- The only interval of a set that has one holds what belongs to the set. -/
theorem contains_of_ranges {s : CharSet} {lo hi : Nat} (h : s.ranges = [(lo, hi)]) (c : Char) :
    s.contains c = decide (lo ≤ c.toNat ∧ c.toNat ≤ hi) := by
  have hc := toNat_le c
  have sorted := s.sorted
  unfold contains containsCode
  unfold ranges at h
  generalize s.cuts = cuts at h sorted ⊢
  match cuts with
  | [] => cases h
  | [a] =>
      obtain ⟨rfl, rfl⟩ : a = lo ∧ 0x10FFFF = hi := by simpa [pairUp] using h
      simp only [insideAt]
      grind
  | [a, b] =>
      obtain ⟨rfl, rfl⟩ : a = lo ∧ b - 1 = hi := by simpa [pairUp] using h
      have hab : a < b := by simpa using sorted
      simp only [insideAt]
      grind
  | a :: b :: x :: rest => cases rest <;> simp [pairUp] at h

/-- **The only character of a set is its only member.** -/
theorem contains_of_single? {s : CharSet} {c : Char} (h : s.single? = some c) (d : Char) :
    s.contains d = decide (d = c) := by
  unfold single? at h
  split at h
  next lo hi hr =>
    split at h
    next hv =>
      obtain ⟨rfl, hvalid⟩ := hv
      cases h
      simp only [contains_of_ranges hr, ← Char.toNat_inj, toNat_ofNat hvalid]
      grind
    · cases h
  · cases h

@[simp] theorem contains_empty (c : Char) : empty.contains c = false := rfl

theorem contains_foldl_union (sets : List CharSet) (s : CharSet) (c : Char) :
    (sets.foldl union s).contains c = (s.contains c || sets.any (·.contains c)) := by
  induction sets generalizing s with
  | nil => simp
  | cons t sets ih => rw [List.foldl_cons, ih, contains_union, List.any_cons, Bool.or_assoc]

/-- A union holds what one of the sets holds. -/
@[simp] theorem contains_unions (sets : List CharSet) (c : Char) :
    (unions sets).contains c = sets.any (·.contains c) := contains_foldl_union ..

/-! ### Sets kept as text -/

/-- The cuts whose first one is `start` plus the first gap, each later one lying its gap plus one
beyond the one before. -/
def cutsOfGaps (start : Nat) : List Nat → List Nat
  | [] => []
  | gap :: gaps => (start + gap) :: cutsOfGaps (start + gap + 1) gaps

theorem le_of_mem_cutsOfGaps {start n : Nat} {gaps : List Nat} (h : n ∈ cutsOfGaps start gaps) :
    start ≤ n := by
  induction gaps generalizing start with
  | nil => simp [cutsOfGaps] at h
  | cons gap gaps ih =>
      rcases List.mem_cons.1 h with rfl | h
      · omega
      · have := ih h; omega

theorem sorted_cutsOfGaps (start : Nat) (gaps : List Nat) :
    (cutsOfGaps start gaps).Pairwise (· < ·) := by
  induction gaps generalizing start with
  | nil => simp [cutsOfGaps]
  | cons gap gaps ih =>
      exact List.pairwise_cons.2 ⟨fun n hn => le_of_mem_cutsOfGaps hn, ih _⟩

/-- The set whose cuts have the given gaps. -/
def ofGaps (gaps : List Nat) : CharSet := ⟨cutsOfGaps 0 gaps, sorted_cutsOfGaps 0 gaps⟩

/-- The value of a hexadecimal digit; anything else counts as zero. -/
def hexDigit (c : Char) : Nat :=
  if c.isDigit then c.toNat - '0'.toNat
  else if 'a' ≤ c ∧ c ≤ 'f' then c.toNat - 'a'.toNat + 10
  else if 'A' ≤ c ∧ c ≤ 'F' then c.toNat - 'A'.toNat + 10
  else 0

/-- The hexadecimal numbers of a text, each one ended by a blank or a line break; `value` is what
has been read of the number at hand. -/
def hexNumbers (value : Nat) : List Char → List Nat
  | [] => []
  | ' ' :: rest | '\n' :: rest => value :: hexNumbers 0 rest
  | c :: rest => hexNumbers (16 * value + hexDigit c) rest

/-- The set whose gaps are written in hexadecimal, each number ended by a blank or a line break. -/
def decode (text : String) : CharSet := ofGaps (hexNumbers 0 text.toList)

end CharSet

end ParamTemplate
