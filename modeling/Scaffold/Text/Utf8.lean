import Scaffold.Text.Basic

/-!
# Bytes and text

UTF-8 both ways. Decoding refuses overlong forms, surrogates and everything above the last
code point.
-/

namespace Scaffold

namespace Text

/-- The bytes of a character. -/
def encodeChar (c : Char) : List UInt8 :=
  let n := c.toNat
  if n < 0x80 then [n.toUInt8]
  else if n < 0x800 then [(0xC0 + n / 64).toUInt8, (0x80 + n % 64).toUInt8]
  else if n < 0x10000 then
    [(0xE0 + n / 4096).toUInt8, (0x80 + n / 64 % 64).toUInt8, (0x80 + n % 64).toUInt8]
  else
    [(0xF0 + n / 262144).toUInt8, (0x80 + n / 4096 % 64).toUInt8, (0x80 + n / 64 % 64).toUInt8,
      (0x80 + n % 64).toUInt8]

/-- The bytes of a text. -/
def encode (s : Text) : List UInt8 := s.flatMap encodeChar

/-- Whether a byte continues a character. -/
def isContinuation (b : UInt8) : Bool := 0x80 ≤ b && b < 0xC0

/-- The character of a code point that lies in a range and is no surrogate. -/
def charIn? (low n : Nat) : Option Char :=
  if low ≤ n && n < 0x110000 && !(0xD800 ≤ n && n < 0xE000) then some (Char.ofNat n) else none

/-- The character of two bytes. -/
def charOfTwo? (a b : UInt8) : Option Char :=
  if 0xC2 ≤ a && a < 0xE0 && isContinuation b then
    some (Char.ofNat ((a.toNat - 0xC0) * 64 + (b.toNat - 0x80)))
  else none

/-- The character of three bytes. -/
def charOfThree? (a b c : UInt8) : Option Char :=
  if 0xE0 ≤ a && a < 0xF0 && isContinuation b && isContinuation c then
    charIn? 0x800 ((a.toNat - 0xE0) * 4096 + (b.toNat - 0x80) * 64 + (c.toNat - 0x80))
  else none

/-- The character of four bytes. -/
def charOfFour? (a b c d : UInt8) : Option Char :=
  if 0xF0 ≤ a && a < 0xF5 && isContinuation b && isContinuation c && isContinuation d then
    charIn? 0x10000 ((a.toNat - 0xF0) * 262144 + (b.toNat - 0x80) * 4096 +
      (c.toNat - 0x80) * 64 + (d.toNat - 0x80))
  else none

/-- The text of the bytes, if they are well formed. No character is read in two ways: how many
bytes it has is told by the first one. -/
def decode? : List UInt8 → Option Text
  | [] => some []
  | a :: rest =>
    if a < 0x80 then (decode? rest).map (Char.ofNat a.toNat :: ·)
    else match rest with
      | [] => none
      | b :: rest₁ => match charOfTwo? a b with
        | some ch => (decode? rest₁).map (ch :: ·)
        | none => match rest₁ with
          | [] => none
          | c :: rest₂ => match charOfThree? a b c with
            | some ch => (decode? rest₂).map (ch :: ·)
            | none => match rest₂ with
              | [] => none
              | d :: rest₃ => match charOfFour? a b c d with
                | some ch => (decode? rest₃).map (ch :: ·)
                | none => none

end Text

end Scaffold
