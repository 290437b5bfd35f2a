import Scaffold.Text.Utf8

/-!
# Text as bytes and back

Every text is read back from its bytes. Characters are read back one by one, in front of any bytes:
the first byte tells how many there are, and what they make up is the number that was taken apart.

## Main results

* `Text.decode?_encodeChar_append` — a character in front of bytes
* `Text.decode?_encode` — a whole text
-/

namespace Scaffold

namespace Text

/-! ### Bytes as numbers -/

theorem toNat_toUInt8 {n : Nat} (h : n < 256) : n.toUInt8.toNat = n := by
  show n % 256 = n
  omega

/-- Six bits behind the mark of a continuation. -/
theorem isContinuation_toUInt8 {n : Nat} (h : n < 64) :
    isContinuation (0x80 + n).toUInt8 = true := by
  have hn : (0x80 + n).toUInt8.toNat = 0x80 + n := toNat_toUInt8 (by omega)
  have hlow : (0x80 : UInt8).toNat = 0x80 := rfl
  have hhigh : (0xC0 : UInt8).toNat = 0xC0 := rfl
  simp only [isContinuation, Bool.and_eq_true, decide_eq_true_eq, UInt8.le_iff_toNat_le,
    UInt8.lt_iff_toNat_lt, hn, hlow, hhigh]
  omega

/-- The numbers of characters leave out the surrogates. -/
theorem toNat_lt_or (c : Char) :
    c.toNat < 0xD800 ∨ (0xDFFF < c.toNat ∧ c.toNat < 0x110000) := c.valid

theorem charIn?_toNat {c : Char} {low : Nat} (h : low ≤ c.toNat) :
    charIn? low c.toNat = some c := by
  have hvalid := toNat_lt_or c
  rw [charIn?, if_pos, Char.ofNat_toNat]
  simp only [Bool.and_eq_true, decide_eq_true_eq, Bool.not_eq_true', Bool.and_eq_false_iff,
    decide_eq_false_iff_not]
  omega

/-! ### Characters -/

/-- A byte that is the first of several is not a character by itself. -/
theorem not_lt_of_le_toNat {a : UInt8} (h : 0xC0 ≤ a.toNat) : ¬a < 0x80 := by
  have hlow : (0x80 : UInt8).toNat = 0x80 := rfl
  rw [UInt8.lt_iff_toNat_lt]
  omega

theorem charOfTwo?_encoded {c : Char} (h : 0x80 ≤ c.toNat) (h' : c.toNat < 0x800) :
    charOfTwo? (0xC0 + c.toNat / 64).toUInt8 (0x80 + c.toNat % 64).toUInt8 = some c := by
  have ha : (0xC0 + c.toNat / 64).toUInt8.toNat = 0xC0 + c.toNat / 64 := toNat_toUInt8 (by omega)
  have hb : (0x80 + c.toNat % 64).toUInt8.toNat = 0x80 + c.toNat % 64 := toNat_toUInt8 (by omega)
  have hlow : (0xC2 : UInt8).toNat = 0xC2 := rfl
  have hhigh : (0xE0 : UInt8).toNat = 0xE0 := rfl
  have hsum : (0xC0 + c.toNat / 64 - 0xC0) * 64 + (0x80 + c.toNat % 64 - 0x80) = c.toNat := by omega
  rw [charOfTwo?, if_pos, ha, hb, hsum, Char.ofNat_toNat]
  rw [isContinuation_toUInt8 (Nat.mod_lt _ (by decide)), Bool.and_true, Bool.and_eq_true,
    decide_eq_true_eq, decide_eq_true_eq, UInt8.le_iff_toNat_le, UInt8.lt_iff_toNat_lt, ha, hlow,
    hhigh]
  omega

theorem charOfThree?_encoded {c : Char} (h : 0x800 ≤ c.toNat) (h' : c.toNat < 0x10000) :
    charOfThree? (0xE0 + c.toNat / 4096).toUInt8 (0x80 + c.toNat / 64 % 64).toUInt8
      (0x80 + c.toNat % 64).toUInt8 = some c := by
  have ha : (0xE0 + c.toNat / 4096).toUInt8.toNat = 0xE0 + c.toNat / 4096 :=
    toNat_toUInt8 (by omega)
  have hb : (0x80 + c.toNat / 64 % 64).toUInt8.toNat = 0x80 + c.toNat / 64 % 64 :=
    toNat_toUInt8 (by omega)
  have hc : (0x80 + c.toNat % 64).toUInt8.toNat = 0x80 + c.toNat % 64 := toNat_toUInt8 (by omega)
  have hlow : (0xE0 : UInt8).toNat = 0xE0 := rfl
  have hhigh : (0xF0 : UInt8).toNat = 0xF0 := rfl
  have hsum : (0xE0 + c.toNat / 4096 - 0xE0) * 4096 + (0x80 + c.toNat / 64 % 64 - 0x80) * 64 +
      (0x80 + c.toNat % 64 - 0x80) = c.toNat := by omega
  rw [charOfThree?, if_pos, ha, hb, hc, hsum, charIn?_toNat h]
  rw [isContinuation_toUInt8 (Nat.mod_lt _ (by decide)),
    isContinuation_toUInt8 (Nat.mod_lt _ (by decide)), Bool.and_true, Bool.and_true,
    Bool.and_eq_true, decide_eq_true_eq, decide_eq_true_eq, UInt8.le_iff_toNat_le,
    UInt8.lt_iff_toNat_lt, ha, hlow, hhigh]
  omega

theorem charOfFour?_encoded {c : Char} (h : 0x10000 ≤ c.toNat) :
    charOfFour? (0xF0 + c.toNat / 262144).toUInt8 (0x80 + c.toNat / 4096 % 64).toUInt8
      (0x80 + c.toNat / 64 % 64).toUInt8 (0x80 + c.toNat % 64).toUInt8 = some c := by
  have hbound := toNat_lt_or c
  have ha : (0xF0 + c.toNat / 262144).toUInt8.toNat = 0xF0 + c.toNat / 262144 :=
    toNat_toUInt8 (by omega)
  have hb : (0x80 + c.toNat / 4096 % 64).toUInt8.toNat = 0x80 + c.toNat / 4096 % 64 :=
    toNat_toUInt8 (by omega)
  have hc : (0x80 + c.toNat / 64 % 64).toUInt8.toNat = 0x80 + c.toNat / 64 % 64 :=
    toNat_toUInt8 (by omega)
  have hd : (0x80 + c.toNat % 64).toUInt8.toNat = 0x80 + c.toNat % 64 := toNat_toUInt8 (by omega)
  have hlow : (0xF0 : UInt8).toNat = 0xF0 := rfl
  have hhigh : (0xF5 : UInt8).toNat = 0xF5 := rfl
  have hsum : (0xF0 + c.toNat / 262144 - 0xF0) * 262144 +
      (0x80 + c.toNat / 4096 % 64 - 0x80) * 4096 + (0x80 + c.toNat / 64 % 64 - 0x80) * 64 +
      (0x80 + c.toNat % 64 - 0x80) = c.toNat := by omega
  rw [charOfFour?, if_pos, ha, hb, hc, hd, hsum, charIn?_toNat h]
  rw [isContinuation_toUInt8 (Nat.mod_lt _ (by decide)),
    isContinuation_toUInt8 (Nat.mod_lt _ (by decide)),
    isContinuation_toUInt8 (Nat.mod_lt _ (by decide)), Bool.and_true, Bool.and_true, Bool.and_true,
    Bool.and_eq_true, decide_eq_true_eq, decide_eq_true_eq, UInt8.le_iff_toNat_le,
    UInt8.lt_iff_toNat_lt, ha, hlow, hhigh]
  omega

/-- Bytes whose first one begins a longer character are not those of a shorter one. -/
theorem charOfTwo?_eq_none {a b : UInt8} (h : 0xE0 ≤ a.toNat) : charOfTwo? a b = none := by
  have hhigh : (0xE0 : UInt8).toNat = 0xE0 := rfl
  rw [charOfTwo?, if_neg]
  simp only [Bool.and_eq_true, decide_eq_true_eq, UInt8.lt_iff_toNat_lt, hhigh]
  omega

theorem charOfThree?_eq_none {a b c : UInt8} (h : 0xF0 ≤ a.toNat) : charOfThree? a b c = none := by
  have hhigh : (0xF0 : UInt8).toNat = 0xF0 := rfl
  rw [charOfThree?, if_neg]
  simp only [Bool.and_eq_true, decide_eq_true_eq, UInt8.lt_iff_toNat_lt, hhigh]
  omega

/-! ### Reading -/

section

variable {a b c d : UInt8} {ch : Char} {rest : List UInt8}

theorem decode?_of_lt (h : a < 0x80) :
    decode? (a :: rest) = (decode? rest).map (Char.ofNat a.toNat :: ·) := by
  rw [decode?.eq_def]
  dsimp only
  rw [if_pos h]

theorem decode?_of_two (h : 0xC0 ≤ a.toNat) (hread : charOfTwo? a b = some ch) :
    decode? (a :: b :: rest) = (decode? rest).map (ch :: ·) := by
  rw [decode?.eq_def]
  simp only [if_neg (not_lt_of_le_toNat h), hread]

theorem decode?_of_three (h : 0xE0 ≤ a.toNat) (hread : charOfThree? a b c = some ch) :
    decode? (a :: b :: c :: rest) = (decode? rest).map (ch :: ·) := by
  rw [decode?.eq_def]
  simp only [if_neg (not_lt_of_le_toNat (Nat.le_trans (by decide) h)), charOfTwo?_eq_none h, hread]

theorem decode?_of_four (h : 0xF0 ≤ a.toNat) (hread : charOfFour? a b c d = some ch) :
    decode? (a :: b :: c :: d :: rest) = (decode? rest).map (ch :: ·) := by
  rw [decode?.eq_def]
  simp only [if_neg (not_lt_of_le_toNat (Nat.le_trans (by decide) h)),
    charOfTwo?_eq_none (Nat.le_trans (by decide) h), charOfThree?_eq_none h, hread]

end

/-- **A character is read back in front of any bytes.** -/
theorem decode?_encodeChar_append (c : Char) (bytes : List UInt8) :
    decode? (encodeChar c ++ bytes) = (decode? bytes).map (c :: ·) := by
  have hbound := toNat_lt_or c
  by_cases hone : c.toNat < 0x80
  · have ha : c.toNat.toUInt8.toNat = c.toNat := toNat_toUInt8 (by omega)
    have hlt : c.toNat.toUInt8 < 0x80 := by
      rw [UInt8.lt_iff_toNat_lt, ha]
      exact hone
    rw [encodeChar, if_pos hone, List.singleton_append, decode?_of_lt hlt, ha, Char.ofNat_toNat]
  by_cases htwo : c.toNat < 0x800
  · have ha : (0xC0 + c.toNat / 64).toUInt8.toNat = 0xC0 + c.toNat / 64 := toNat_toUInt8 (by omega)
    rw [encodeChar, if_neg hone, if_pos htwo]
    exact decode?_of_two (by omega) (charOfTwo?_encoded (by omega) htwo)
  by_cases hthree : c.toNat < 0x10000
  · have ha : (0xE0 + c.toNat / 4096).toUInt8.toNat = 0xE0 + c.toNat / 4096 :=
      toNat_toUInt8 (by omega)
    rw [encodeChar, if_neg hone, if_neg htwo, if_pos hthree]
    exact decode?_of_three (by omega) (charOfThree?_encoded (by omega) hthree)
  · have ha : (0xF0 + c.toNat / 262144).toUInt8.toNat = 0xF0 + c.toNat / 262144 :=
      toNat_toUInt8 (by omega)
    rw [encodeChar, if_neg hone, if_neg htwo, if_neg hthree]
    exact decode?_of_four (by omega) (charOfFour?_encoded (by omega))

/-- **A text is read back from its bytes.** -/
@[simp] theorem decode?_encode (s : Text) : decode? (encode s) = some s := by
  induction s with
  | nil => rfl
  | cons c rest ih =>
    have hcons : encode (c :: rest) = encodeChar c ++ encode rest := List.flatMap_cons
    rw [hcons, decode?_encodeChar_append, ih]
    rfl

end Text

end Scaffold
