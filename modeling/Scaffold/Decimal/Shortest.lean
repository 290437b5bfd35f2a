/-!
# Shortest decimals

The fewest digits that read back as a given floating-point number, and of those the nearest
ones. A finite number is `m * 2 ^ q`; the reals that round to it form an interval whose ends
belong to it when `m` is even. For each count of digits the two neighbours of the number on the
decimal grid are tried in exact arithmetic.
-/

namespace Scaffold

namespace Decimal

/-! ### Powers -/

/-- A power of two. -/
def twoTo (k : Nat) : Nat := Nat.pow 2 k

/-- A power of ten. -/
def tenTo (k : Nat) : Nat := Nat.pow 10 k

@[simp] theorem twoTo_zero : twoTo 0 = 1 := rfl

@[simp] theorem tenTo_zero : tenTo 0 = 1 := rfl

theorem tenTo_succ (k : Nat) : tenTo (k + 1) = tenTo k * 10 := rfl

/-! ### Binary numbers and their digits -/

/-- A floating-point number in binary. -/
inductive Binary
  | nan
  | infinite (negative : Bool)
  | finite (negative : Bool) (mantissa : Nat) (exponent : Int)
deriving DecidableEq, Repr

/-- Take a number apart. The mantissa has 53 bits unless the number is subnormal. -/
def Binary.ofFloat (x : Float) : Binary :=
  let bits := x.toBits.toNat
  let negative := bits / twoTo 63 == 1
  let exponent : Nat := bits / twoTo 52 % twoTo 11
  let fraction := bits % twoTo 52
  if exponent == 2047 then if fraction == 0 then .infinite negative else .nan
  else if exponent == 0 then .finite negative fraction (-1074)
  else .finite negative (fraction + twoTo 52) ((exponent : Int) - 1075)

/-- Digits, and how many of them stand before the point. -/
structure Digits where
  digits : List Char
  point : Int
deriving DecidableEq, Repr

/-- The decimal digits of a number. -/
def digitsOf (n : Nat) : List Char := Nat.toDigits 10 n

/-- `n * 2 ^ q * 10 ^ k` as a fraction. -/
def scaled (n : Nat) (q k : Int) : Nat × Nat :=
  (n * twoTo q.toNat * tenTo k.toNat, twoTo (-q).toNat * tenTo (-k).toNat)

/-- How many digits of `m * 2 ^ q` stand before the point; less than one for small numbers. -/
def pointOf (m : Nat) (q : Int) : Int :=
  let (num, den) := scaled m q 330
  (digitsOf (num / den)).length - 330

/-- The candidate with `count` digits, if one of the two neighbours reads back. Everything is
measured in quarters of the last binary place. -/
def candidate? (m : Nat) (q : Int) (point : Int) (count : Nat) : Option Nat :=
  let shift := (count : Int) - point
  let (num, den) := scaled (4 * m) (q - 2) shift
  let gapBelow := if m == twoTo 52 && q != -1074 then 1 else 2
  let (low, _) := scaled (4 * m - gapBelow) (q - 2) shift
  let (high, _) := scaled (4 * m + 2) (q - 2) shift
  let below := num / den
  let fits (c : Nat) : Bool :=
    if m % 2 == 0 then low ≤ c * den && c * den ≤ high else low < c * den && c * den < high
  let above := below + 1
  match fits below, fits above with
  | true, true =>
    let down := num - below * den
    let up := above * den - num
    if down < up || (down == up && below % 2 == 0) then some below else some above
  | true, false => some below
  | false, true => some above
  | false, false => none

/-- The first count of digits from `count` on that has a candidate. -/
def shortestFrom (m : Nat) (q point : Int) : (fuel count : Nat) → Nat × Nat
  | 0, count => (0, count)
  | fuel + 1, count =>
    match candidate? m q point count with
    | some c => (c, count)
    | none => shortestFrom m q point fuel (count + 1)

/-- The shortest digits of a positive number `m * 2 ^ q`. -/
def shortest (m : Nat) (q : Int) : Digits :=
  let point := pointOf m q
  let (c, count) := shortestFrom m q point 20 1
  let digits := digitsOf c
  let trimmed := (digits.reverse.dropWhile (· == '0')).reverse
  ⟨trimmed, point + digits.length - count⟩

/-- The digits of `m * 2 ^ q` rounded to `places` behind the point, half to even, as a whole
number of units of the last place. -/
def roundedTo (m : Nat) (q : Int) (places : Int) : Nat :=
  let (num, den) := scaled m q places
  let below := num / den
  let twice := 2 * (num - below * den)
  if twice < den || (twice == den && below % 2 == 0) then below else below + 1

end Decimal

end Scaffold
