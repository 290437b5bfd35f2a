import Scaffold.Decimal.Notation

/-!
# Decimals to order

Floating-point numbers with a given count of places behind the point, or of digits in all.
Digits that are dropped are rounded, half to even, in exact arithmetic.
-/

namespace Scaffold

namespace Decimal

/-- How a number is laid out. -/
inductive Form
  /-- So many places behind the point. -/
  | fixed
  /-- One digit before the point, so many places behind it, and an exponent. -/
  | scientific
  /-- So many digits in all, in the shorter of the two forms. -/
  | general
deriving DecidableEq, Repr

/-- Digits with a point so many places from the end. The point is left out when nothing follows
it, unless it is asked for. -/
def withPoint (units places : Nat) (keepPoint : Bool) : List Char :=
  let digits := digitsOf units
  let digits := List.replicate (places + 1 - digits.length) '0' ++ digits
  let whole := digits.take (digits.length - places)
  let rest := digits.drop (digits.length - places)
  if rest.isEmpty && !keepPoint then whole else whole ++ '.' :: rest

/-- The number `m * 2 ^ q` with so many places behind the point. -/
def fixedText (m : Nat) (q : Int) (places : Nat) (keepPoint : Bool) : List Char :=
  withPoint (roundedTo m q places) places keepPoint

/-- The first digits of a positive number, rounded, as a whole number, and the exponent of the
first of them. -/
def leading (m : Nat) (q : Int) (count : Nat) : Nat × Int :=
  if m = 0 then (0, 0)
  else
    let point := pointOf m q
    let units := roundedTo m q (count - point)
    if (digitsOf units).length = count then (units, point - 1)
    else (units / 10, point)

/-- The number `m * 2 ^ q` with one digit before the point. -/
def scientificText (m : Nat) (q : Int) (places : Nat) (keepPoint : Bool) : List Char :=
  let (units, e) := leading m q (places + 1)
  withPoint units places keepPoint ++ exponentText e

/-- A number without zeros at the end of its places, and without the point if none are left. -/
def trimZeros (s : List Char) : List Char :=
  if s.contains '.' then
    let s := (s.reverse.dropWhile (· == '0')).reverse
    if s.getLast? = some '.' then s.dropLast else s
  else s

/-- The number `m * 2 ^ q` with so many digits in all. -/
def generalText (m : Nat) (q : Int) (count : Nat) (keepZeros : Bool) : List Char :=
  let count := max count 1
  let (units, e) := leading m q count
  let trim (s : List Char) : List Char := if keepZeros then s else trimZeros s
  if -4 ≤ e && e < count then
    if e + 1 - count ≤ 0 then trim (withPoint units (count - 1 - e).toNat keepZeros)
    else trim (withPoint units 0 keepZeros)
  else trim (withPoint units (count - 1) keepZeros) ++ exponentText e

/-- A number without its sign in a form. -/
def formatted (form : Form) (precision : Nat) (keepPoint : Bool) (x : Float) : List Char :=
  match Binary.ofFloat x with
  | .nan => ['n', 'a', 'n']
  | .infinite _ => ['i', 'n', 'f']
  | .finite _ m q => match form with
    | .fixed => fixedText m q precision keepPoint
    | .scientific => scientificText m q precision keepPoint
    | .general => generalText m q precision keepPoint

/-- Whether a number has a minus sign. -/
def isNegative (x : Float) : Bool :=
  match Binary.ofFloat x with
  | .nan => false
  | .infinite negative | .finite negative _ _ => negative

end Decimal

end Scaffold
