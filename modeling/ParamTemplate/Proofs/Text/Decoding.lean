/-
**Reading bytes as a text.**

Each character is read back from its bytes, and bytes that are read as a character are those of the
character.  So bytes are read as a text if and only if they are the bytes of that text, and bytes
that are those of no text are refused.

Main results:

* `Utf8.bytes_eq_utf8EncodeChar` — the bytes of a character are those of the standard form;
* `Utf8.decodeChar?_eq_some_iff` — what is read as the first character;
* `Utf8.decode?_eq_some_iff` — **what is read as a text.**
-/

import ParamTemplate.Text.CharSet
import ParamTemplate.Text.Utf8

set_option autoImplicit false

namespace ParamTemplate.Utf8

variable {a b c d code : Nat} {data rest : List Nat} {char : Char} {text : List Char}

/-! ### The bytes of a character -/

theorem bytes_one (h : code < 0x80) : bytes code = [code] := by
  unfold bytes width
  rw [if_pos h]
  rfl

theorem bytes_two (h : 0x80 ≤ code) (h' : code < 0x800) :
    bytes code = [0xC0 + code / 64, 0x80 + code % 64] := by
  unfold bytes width
  rw [if_neg (by omega), if_pos h']
  simp [trailing]

theorem bytes_three (h : 0x800 ≤ code) (h' : code < 0x10000) :
    bytes code = [0xE0 + code / (64 * 64), 0x80 + code / 64 % 64, 0x80 + code % 64] := by
  unfold bytes width
  rw [if_neg (by omega), if_neg (by omega), if_pos h']
  simp [trailing]

theorem bytes_four (h : 0x10000 ≤ code) :
    bytes code = [0xF0 + code / (64 * 64 * 64), 0x80 + code / (64 * 64) % 64,
      0x80 + code / 64 % 64, 0x80 + code % 64] := by
  unfold bytes width
  rw [if_neg (by omega), if_neg (by omega), if_neg (by omega)]
  simp [trailing]

/-- **The bytes of a character are those of the standard form.** -/
theorem bytes_eq_utf8EncodeChar (char : Char) :
    bytes char.toNat = (String.utf8EncodeChar char).map UInt8.toNat := by
  have top : char.val.toNat ≤ 0x10FFFF := CharSet.toNat_le char
  unfold String.utf8EncodeChar Char.toNat
  generalize char.val.toNat = code at top
  dsimp only
  split
  · rw [bytes_one (by omega)]
    simp
    omega
  split
  · rw [bytes_two (by omega) (by omega)]
    simp
    omega
  split
  · rw [bytes_three (by omega) (by omega)]
    simp
    omega
  · rw [bytes_four (by omega)]
    simp
    omega

/-- **Small bytes stand only for themselves.** -/
theorem eq_of_mem_bytes (hb : b ∈ bytes code) (h : b < 0x80) : b = code := by
  rcases Nat.lt_or_ge code 0x80 with h1 | h1
  · rw [bytes_one h1] at hb
    exact List.mem_singleton.1 hb
  rcases Nat.lt_or_ge code 0x800 with h2 | h2
  · rw [bytes_two h1 h2] at hb
    grind
  rcases Nat.lt_or_ge code 0x10000 with h3 | h3
  · rw [bytes_three h2 h3] at hb
    grind
  · rw [bytes_four h3] at hb
    grind

/-! ### Reading a character -/

theorem isTrailing_iff : isTrailing b ↔ 0x80 ≤ b ∧ b < 0xC0 := by
  simp [isTrailing]

/-- **A character is read back from its bytes.** -/
theorem decodeChar?_bytes (char : Char) (rest : List Nat) :
    decodeChar? (bytes char.toNat ++ rest) = some (char, rest) := by
  have valid : char.toNat.isValidChar := char.valid
  have top : char.toNat < 0x110000 := by
    rcases valid with h | ⟨-, h⟩ <;> omega
  have same : Char.ofNat char.toNat = char := Char.ofNat_toNat char
  generalize char.toNat = code at valid top same
  subst same
  rcases Nat.lt_or_ge code 0x80 with h1 | h1
  · rw [bytes_one h1]
    exact if_pos h1
  rcases Nat.lt_or_ge code 0x800 with h2 | h2
  · have value : (0xC0 + code / 64 - 0xC0) * 64 + (0x80 + code % 64 - 0x80) = code := by omega
    rw [bytes_two h1 h2]
    simp only [List.cons_append, List.nil_append, decodeChar?, value]
    grind [isTrailing]
  rcases Nat.lt_or_ge code 0x10000 with h3 | h3
  · have value : ((0xE0 + code / (64 * 64) - 0xE0) * 64 + (0x80 + code / 64 % 64 - 0x80)) * 64 +
        (0x80 + code % 64 - 0x80) = code := by omega
    rw [bytes_three h2 h3]
    simp only [List.cons_append, List.nil_append, decodeChar?, value]
    grind [isTrailing]
  · have value : (((0xF0 + code / (64 * 64 * 64) - 0xF0) * 64 +
        (0x80 + code / (64 * 64) % 64 - 0x80)) * 64 + (0x80 + code / 64 % 64 - 0x80)) * 64 +
        (0x80 + code % 64 - 0x80) = code := by omega
    rw [bytes_four h3]
    simp only [List.cons_append, List.nil_append, decodeChar?, value]
    grind [isTrailing]

/-- What is read as the first character is made of its bytes. -/
theorem eq_of_decodeChar? (h : decodeChar? data = some (char, rest)) :
    data = bytes char.toNat ++ rest := by
  unfold decodeChar? at h
  split at h
  · cases h
  next a more =>
    split at h
    · obtain ⟨rfl, rfl⟩ := Prod.mk.inj (Option.some.inj h)
      rw [CharSet.toNat_ofNat (.inl (by omega)), bytes_one ‹_›]
      rfl
    split at h
    · cases h
    split at h
    · split at h
      next b more =>
        split at h
        next hb =>
          rw [isTrailing_iff] at hb
          obtain ⟨rfl, rfl⟩ := Prod.mk.inj (Option.some.inj h)
          rw [CharSet.toNat_ofNat (.inl (by omega)), bytes_two (by omega) (by omega)]
          simp only [List.cons_append, List.nil_append, List.cons.injEq, and_true]
          omega
        · cases h
      · cases h
    split at h
    · split at h
      next b c more =>
        dsimp only at h
        split at h
        next hvalid =>
          simp only [Bool.and_eq_true, isTrailing_iff, decide_eq_true_eq] at hvalid
          obtain ⟨⟨⟨hb, hc⟩, hlow⟩, hvalid⟩ := hvalid
          obtain ⟨rfl, rfl⟩ := Prod.mk.inj (Option.some.inj h)
          rw [CharSet.toNat_ofNat hvalid, bytes_three hlow (by omega)]
          simp only [List.cons_append, List.nil_append, List.cons.injEq, and_true]
          omega
        · cases h
      · cases h
    split at h
    · split at h
      next b c d more =>
        dsimp only at h
        split at h
        next hvalid =>
          simp only [Bool.and_eq_true, isTrailing_iff, decide_eq_true_eq] at hvalid
          obtain ⟨⟨⟨⟨hb, hc⟩, hd⟩, hlow⟩, hvalid⟩ := hvalid
          obtain ⟨rfl, rfl⟩ := Prod.mk.inj (Option.some.inj h)
          rw [CharSet.toNat_ofNat hvalid, bytes_four hlow]
          simp only [List.cons_append, List.nil_append, List.cons.injEq, and_true]
          omega
        · cases h
      · cases h
    · cases h

/-- **What is read as the first character,** and what is left behind it. -/
theorem decodeChar?_eq_some_iff :
    decodeChar? data = some (char, rest) ↔ data = bytes char.toNat ++ rest :=
  ⟨eq_of_decodeChar?, fun h => h ▸ decodeChar?_bytes char rest⟩

/-! ### Reading a text -/

@[simp] theorem encode_nil : encode [] = [] := rfl

@[simp] theorem encode_cons (char : Char) (text : List Char) :
    encode (char :: text) = bytes char.toNat ++ encode text := List.flatMap_cons ..

theorem bytes_ne_nil (code : Nat) : bytes code ≠ [] := by
  unfold bytes
  split <;> exact List.cons_ne_nil _ _

/-- What is left of some bytes is read as what is behind the characters before it. -/
theorem decodeFrom_eq_some_iff {read : List Char} :
    decodeFrom read data = some text ↔
      ∃ more, text = read.reverse ++ more ∧ data = encode more := by
  fun_induction decodeFrom read data with
  | case1 read data hempty =>
      obtain rfl := List.isEmpty_iff.1 hempty
      constructor
      · intro h
        cases h
        exact ⟨[], by simp, rfl⟩
      · rintro ⟨more, rfl, hmore⟩
        cases more with
        | nil => simp
        | cons char more => exact absurd (List.append_eq_nil_iff.1 hmore.symm).1 (bytes_ne_nil _)
  | case2 read data hne hnone =>
      constructor
      · intro h
        cases h
      · rintro ⟨more, -, rfl⟩
        cases more with
        | nil => exact absurd rfl hne
        | cons char more =>
            rw [encode_cons, decodeChar?_bytes] at hnone
            cases hnone
  | case3 read data hne char rest hsome ih =>
      obtain rfl := decodeChar?_eq_some_iff.1 hsome
      rw [ih]
      constructor
      · rintro ⟨more, rfl, rfl⟩
        exact ⟨char :: more, by simp, rfl⟩
      · rintro ⟨more, rfl, hmore⟩
        cases more with
        | nil => exact absurd (List.append_eq_nil_iff.1 hmore).1 (bytes_ne_nil _)
        | cons other more =>
            rw [hmore, encode_cons, decodeChar?_bytes] at hsome
            obtain ⟨rfl, rfl⟩ := Prod.mk.inj (Option.some.inj hsome)
            exact ⟨more, by simp, rfl⟩

/-- **What is read as a text:** the bytes of that text, and nothing else. -/
theorem decode?_eq_some_iff : decode? data = some text ↔ encode text = data := by
  rw [decode?, decodeFrom_eq_some_iff]
  constructor
  · rintro ⟨more, rfl, rfl⟩
    rfl
  · rintro rfl
    exact ⟨text, rfl, rfl⟩

/-- **Different texts have different bytes.** -/
theorem encode_inj {text other : List Char} : encode text = encode other ↔ text = other := by
  refine ⟨fun h => ?_, congrArg encode⟩
  have read : decode? (encode other) = some other := decode?_eq_some_iff.2 rfl
  exact Option.some.inj ((decode?_eq_some_iff.2 h).symm.trans read)

end ParamTemplate.Utf8
