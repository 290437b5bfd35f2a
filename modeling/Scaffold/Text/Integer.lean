import Scaffold.Text.Blank
import Scaffold.Text.Letter

/-!
# Whole numbers in text

Reading of decimal and based numerals as people type them: blanks around, a sign, digits of
any script, single underscores between digits.
-/

namespace Scaffold

namespace Text

/-- The value of a digit in a base of up to 36. -/
def digitValue? (c : Char) : Option Nat :=
  if 'a' ≤ c && c ≤ 'z' then some (c.toNat - 87)
  else if 'A' ≤ c && c ≤ 'Z' then some (c.toNat - 55)
  else decimalValue? c

/-- Digits of a base with single underscores between them. `started` tells whether the
character before was a digit. -/
def readDigits? (base : Nat) : (value : Nat) → (started : Bool) → List Char → Option Nat
  | value, started, [] => if started then some value else none
  | value, started, c :: rest =>
    if c == '_' then if started then readDigits? base value false rest else none
    else match digitValue? c with
      | some d => if d < base then readDigits? base (value * base + d) true rest else none
      | none => none

/-- The sign in front, if any, and what follows it. -/
def splitSign : List Char → Bool × List Char
  | '-' :: rest => (true, rest)
  | '+' :: rest => (false, rest)
  | s => (false, s)

/-- A decimal numeral with blanks around it allowed. -/
def readInteger? (s : List Char) : Option Int :=
  let (negative, digits) := splitSign (trim s)
  (readDigits? 10 0 false digits).map fun n => if negative then -n else n

/-- The decimal digits of a number. -/
def ofNat (n : Nat) : List Char := Nat.toDigits 10 n

/-- The decimal numeral of a number. -/
def ofInt : Int → List Char
  | .ofNat n => ofNat n
  | .negSucc n => '-' :: ofNat (n + 1)

end Text

end Scaffold
