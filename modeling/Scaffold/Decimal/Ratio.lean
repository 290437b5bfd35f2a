import Scaffold.Decimal.Shortest

/-!
# Fractions and floating-point numbers

The nearest floating-point number to a fraction, half to even, and back: a finite number is a
fraction with a power of two below. Whole parts and remainders are taken in exact arithmetic.
-/

namespace Scaffold

namespace Decimal

/-- How many binary digits a number has. -/
def bitCount (n : Nat) : Nat := if n = 0 then 0 else Nat.log2 n + 1

/-- `n / d` as a whole number, the half to even. -/
def roundedQuotient (n d : Nat) : Nat :=
  let below := n / d
  let twice := 2 * (n % d)
  if twice < d || (twice == d && below % 2 == 0) then below else below + 1

/-- The number `m * 2 ^ e`. `m` has at most 53 digits, and all of them unless `e` is the
smallest. Nothing when the number is too large. -/
def ofBinary? (negative : Bool) (m : Nat) (e : Int) : Option Float :=
  let (m, e) := if m = twoTo 53 then (twoTo 52, e + 1) else (m, e)
  if m < twoTo 52 then some (Float.ofBits (UInt64.ofNat ((if negative then twoTo 63 else 0) + m)))
  else if 971 < e then none
  else
    let bits := (e + 1075).toNat * twoTo 52 + (m - twoTo 52)
    some (Float.ofBits (UInt64.ofNat ((if negative then twoTo 63 else 0) + bits)))

/-- The number nearest to a fraction. Nothing when it is too large. -/
def nearest? (num : Int) (den : Nat) : Option Float :=
  let n := num.natAbs
  if n = 0 then some 0.0
  else
    let size : Int := (bitCount n : Int) - bitCount den
    let e := max (size - 53) (-1074)
    let scaledBy (e : Int) : Nat := roundedQuotient (n * twoTo (-e).toNat) (den * twoTo e.toNat)
    let m := scaledBy e
    let (m, e) := if twoTo 53 < m then (scaledBy (e + 1), e + 1) else (m, e)
    ofBinary? (num < 0) m e

/-- A finite number as a fraction. -/
def fraction? (x : Float) : Option (Int × Nat) :=
  match Binary.ofFloat x with
  | .finite negative m q =>
    let num : Int := m * twoTo q.toNat
    some (if negative then -num else num, twoTo (-q).toNat)
  | _ => none

/-- The number with the sign of another. -/
def withSign (x sign : Float) : Float :=
  let isNegative (y : Float) : Bool := y.toBits.toNat / twoTo 63 == 1
  if isNegative x == isNegative sign then x else -x

/-- The remainder of a division whose quotient is cut off. It has the sign of the dividend. -/
def remainder (x y : Float) : Float :=
  match fraction? x, fraction? y with
  | some (a, b), some (c, d) =>
    if c = 0 then 0.0 / 0.0
    else
      let rest := Int.tmod (a * d) (c * b)
      withSign ((nearest? rest (b * d)).getD 0.0) x
  | some _, none => if y.isNaN then y else x
  | none, _ => 0.0 / 0.0

/-- Quotient and remainder of a division whose quotient is rounded down. The divisor is not
zero. -/
def floorDivMod (x y : Float) : Float × Float :=
  let rest := remainder x y
  let quotient := (x - rest) / y
  let (rest, quotient) :=
    if rest == 0.0 then (withSign 0.0 y, quotient)
    else if (y < 0.0) != (rest < 0.0) then (rest + y, quotient - 1.0)
    else (rest, quotient)
  if quotient == 0.0 then (withSign 0.0 (x / y), rest)
  else
    let whole := quotient.floor
    (if 0.5 < quotient - whole then whole + 1.0 else whole, rest)

/-- A finite number as a whole one, cut off. -/
def truncated? (x : Float) : Option Int := (fraction? x).map fun (a, b) => Int.tdiv a b

/-- The largest whole number that is not above a finite one. -/
def floor? (x : Float) : Option Int := (fraction? x).map fun (a, b) => Int.fdiv a b

/-- The smallest whole number that is not below a finite one. -/
def ceiling? (x : Float) : Option Int := (fraction? x).map fun (a, b) => -Int.fdiv (-a) b

/-- A number rounded to so many places behind the point, half to even. -/
def roundedToPlaces? (x : Float) (places : Int) : Option Float :=
  match Binary.ofFloat x with
  | .finite _ m q =>
    if 330 < places then some x
    else if places < -330 then some (withSign 0.0 x)
    else
      let units := roundedTo m q places
      (nearest? (units * tenTo (-places).toNat) (tenTo places.toNat)).map fun y => withSign y x
  | _ => some x

/-- The comparison of a whole number with a floating-point one. Nothing when that is no
number. -/
def compareTo? (n : Int) (x : Float) : Option Ordering :=
  match Binary.ofFloat x with
  | .nan => none
  | .infinite negative => some (if negative then .gt else .lt)
  | .finite .. => (fraction? x).map fun (a, b) => compare (n * b) a

end Decimal

end Scaffold
