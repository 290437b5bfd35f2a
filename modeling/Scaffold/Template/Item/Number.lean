import Scaffold.Decimal.Notation
import Scaffold.Decimal.Ratio
import Scaffold.Template.Item.Basic

/-!
# Numbers among items

Truth values count as numbers. Whole numbers stay whole unless they are divided or meet a
floating-point number.
-/

namespace Scaffold

namespace Template

namespace Item

/-- A number on its own terms. -/
inductive Number
  | whole (n : Int)
  | real (x : Float)

/-- An item as a number. -/
def number? : Item → Option Number
  | bool b => some (.whole (if b then 1 else 0))
  | int n => some (.whole n)
  | float x => some (.real x)
  | _ => none

/-- A whole number as a floating-point one. -/
def wholeToReal (n : Int) : Except Fault Float :=
  match Decimal.nearest? n 1 with
  | some x => .ok x
  | none => .error .tooLarge

/-- A number as a floating-point one. -/
def Number.toReal : Number → Except Fault Float
  | whole n => wholeToReal n
  | real x => .ok x

/-- An operation on two numbers of one kind. -/
def onNumbers (onWhole : Int → Int → Except Fault Item) (onReal : Float → Float → Except Fault Item)
    (a b : Number) : Except Fault Item :=
  match a, b with
  | .whole m, .whole n => onWhole m n
  | a, b => do onReal (← a.toReal) (← b.toReal)

/-- The sum of two numbers. -/
def addNumbers : Number → Number → Except Fault Item :=
  onNumbers (fun m n => .ok (.int (m + n))) (fun x y => .ok (.float (x + y)))

/-- The difference of two numbers. -/
def subNumbers : Number → Number → Except Fault Item :=
  onNumbers (fun m n => .ok (.int (m - n))) (fun x y => .ok (.float (x - y)))

/-- The product of two numbers. -/
def mulNumbers : Number → Number → Except Fault Item :=
  onNumbers (fun m n => .ok (.int (m * n))) (fun x y => .ok (.float (x * y)))

/-- The quotient of two whole numbers. -/
def divWhole (m n : Int) : Except Fault Item :=
  if n = 0 then .error .divisionByZero
  else match Decimal.nearest? (if n < 0 then -m else m) n.natAbs with
    | some x => .ok (.float (if m = 0 && n < 0 then -0.0 else x))
    | none => .error .tooLarge

/-- The quotient of two numbers. -/
def divNumbers : Number → Number → Except Fault Item :=
  onNumbers divWhole fun x y =>
    if y == 0.0 then .error .divisionByZero else .ok (.float (x / y))

/-- The quotient of two numbers, rounded down. -/
def floorDivNumbers : Number → Number → Except Fault Item :=
  onNumbers (fun m n => if n = 0 then .error .divisionByZero else .ok (.int (Int.fdiv m n)))
    fun x y => if y == 0.0 then .error .divisionByZero
      else .ok (.float (Decimal.floorDivMod x y).1)

/-- The remainder that goes with the quotient rounded down. -/
def modNumbers : Number → Number → Except Fault Item :=
  onNumbers (fun m n => if n = 0 then .error .divisionByZero else .ok (.int (Int.fmod m n)))
    fun x y => if y == 0.0 then .error .divisionByZero
      else .ok (.float (Decimal.floorDivMod x y).2)

/-- A power of floating-point numbers. -/
def powReal (x y : Float) : Except Fault Item :=
  if x == 0.0 && y < 0.0 then .error .divisionByZero
  else if x < 0.0 && y.isFinite && x.isFinite && y.floor != y then .error .unfit
  else
    let z := Float.pow x y
    if z.isInf && x.isFinite && y.isFinite then .error .tooLarge else .ok (.float z)

/-- A power of whole numbers. One with a negative exponent is not whole. -/
def powWhole (m n : Int) : Except Fault Item :=
  if 0 ≤ n then .ok (.int (Int.pow m n.toNat))
  else do powReal (← wholeToReal m) (← wholeToReal n)

/-- A power. -/
def powNumbers : Number → Number → Except Fault Item := onNumbers powWhole powReal

/-- A number with its sign turned. -/
def negNumber : Number → Item
  | .whole n => .int (-n)
  | .real x => .float (-x)

/-- A number as it is. -/
def posNumber : Number → Item
  | .whole n => .int n
  | .real x => .float x

/-- A number without its sign. -/
def absNumber : Number → Item
  | .whole n => .int n.natAbs
  | .real x => .float x.abs

/-- A floating-point number, cut off. -/
def truncate (x : Float) : Except Fault Int :=
  match Decimal.truncated? x with
  | some n => .ok n
  | none => .error (if x.isNaN then .badValue else .tooLarge)

/-- A whole number rounded to tens, hundreds, and so on; half to even. -/
def roundWhole (n places : Int) : Int :=
  if 0 ≤ places then n
  else
    let unit := Decimal.tenTo (-places).toNat
    let rounded : Int := Decimal.roundedQuotient n.natAbs unit * unit
    if n < 0 then -rounded else rounded

/-- A number rounded to so many places behind the point. -/
def roundNumber (places : Int) : Number → Except Fault Item
  | .whole n => .ok (.int (roundWhole n places))
  | .real x => match Decimal.roundedToPlaces? x places with
    | some y => .ok (.float y)
    | none => .error .tooLarge

/-- The comparison of two numbers. Nothing when one of them is no number. -/
def compareNumbers? : Number → Number → Option Ordering
  | .whole m, .whole n => some (compare m n)
  | .whole m, .real y => Decimal.compareTo? m y
  | .real x, .whole n => (Decimal.compareTo? n x).map Ordering.swap
  | .real x, .real y =>
    if x < y then some .lt else if x == y then some .eq else if y < x then some .gt else none

/-! ### Reading numbers -/

/-- The base and the digits of a numeral, without a mark for the base in front. With base zero
the mark tells the base. -/
def splitBase (base : Nat) (s : Text) : Nat × Text :=
  let marked (letter : Char) : Option Text := match s with
    | '0' :: c :: rest =>
      if c.toLower = letter then some (if rest.head? = some '_' then rest.tail else rest) else none
    | _ => none
  match marked 'x', marked 'o', marked 'b' with
  | some rest, _, _ => if base = 16 || base = 0 then (16, rest) else (base, s)
  | _, some rest, _ => if base = 8 || base = 0 then (8, rest) else (base, s)
  | _, _, some rest => if base = 2 || base = 0 then (2, rest) else (base, s)
  | none, none, none => (if base = 0 then 10 else base, s)

/-- A numeral in a base, with blanks around it and a sign allowed. -/
def readWhole? (base : Nat) (s : Text) : Option Int :=
  let (negative, digits) := Text.splitSign (Text.trim s)
  let (base', digits) := splitBase base digits
  let isOdd := base = 0 && base' = 10 && digits.head? = some '0' &&
    digits.any fun c => c != '0' && c != '_'
  if mostDigits < digits.length || isOdd then none
  else (Text.readDigits? base' 0 false digits).map fun n => if negative then -n else n
where
  /-- Longer numerals are not read. -/
  mostDigits : Nat := 4300

end Item

end Template

end Scaffold
