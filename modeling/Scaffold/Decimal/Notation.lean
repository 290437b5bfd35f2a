import Scaffold.Decimal.Shortest
import Scaffold.Text.Integer

/-!
# Written numbers

How floating-point numbers are written and read: the shortest digits that read back, with a
point always shown, and with an exponent of at least two digits below `1e-04` and from `1e+16`
on.
-/

namespace Scaffold

namespace Decimal

/-- A number with the digits laid out around the point. -/
def positional (d : Digits) : List Char :=
  if d.point ≤ 0 then
    '0' :: '.' :: List.replicate (-d.point).toNat '0' ++ d.digits
  else if d.digits.length ≤ d.point.toNat then
    d.digits ++ List.replicate (d.point.toNat - d.digits.length) '0' ++ ['.', '0']
  else d.digits.take d.point.toNat ++ '.' :: d.digits.drop d.point.toNat

/-- The exponent of a number, with its sign and at least two digits. -/
def exponentText (e : Int) : List Char :=
  let digits := digitsOf e.natAbs
  'e' :: (if e < 0 then '-' else '+') :: (if digits.length < 2 then '0' :: digits else digits)

/-- A number as one digit before the point and an exponent. -/
def scientific (d : Digits) : List Char :=
  let mantissa := match d.digits with
    | c :: [] => [c]
    | c :: rest => c :: '.' :: rest
    | [] => ['0']
  mantissa ++ exponentText (d.point - 1)

/-- A floating-point number as it is written. -/
def written (x : Float) : List Char :=
  match Binary.ofFloat x with
  | .nan => ['n', 'a', 'n']
  | .infinite negative => (if negative then ['-'] else []) ++ ['i', 'n', 'f']
  | .finite negative m q =>
    let body :=
      if m == 0 then ['0', '.', '0']
      else
        let d := shortest m q
        if d.point ≤ -4 || 16 < d.point then scientific d else positional d
    (if negative then ['-'] else []) ++ body

/-- The number with the given decimal digits and power of ten. Powers far outside the range
are cut to ones just outside it. -/
def ofDigits (digits : Nat) (count : Nat) (power : Int) : Float :=
  if digits == 0 then 0.0
  else if 400 < power then Float.ofScientific 1 false 400
  else if power + count < -400 then 0.0
  else if power < 0 then Float.ofScientific digits true (-power).toNat
  else Float.ofScientific digits false power.toNat

/-- The digits a text begins with, underscores allowed between two of them, and the rest. -/
def digitRun : List Char → List Char × List Char
  | [] => ([], [])
  | [c] => match Text.decimalValue? c with
    | some d => ([Char.ofNat (48 + d)], [])
    | none => ([], [c])
  | c :: d :: rest =>
    match Text.decimalValue? c with
    | some v =>
      if d = '_' then
        match rest with
        | e :: _ =>
          if Text.isDecimal e then
            let (digits, after) := digitRun rest
            (Char.ofNat (48 + v) :: digits, after)
          else ([Char.ofNat (48 + v)], d :: rest)
        | [] => ([Char.ofNat (48 + v)], d :: rest)
      else
        let (digits, after) := digitRun (d :: rest)
        (Char.ofNat (48 + v) :: digits, after)
    | none => ([], c :: d :: rest)

/-- The value of decimal digits. -/
def natOf (digits : List Char) : Nat := digits.foldl (fun n c => 10 * n + (c.toNat - 48)) 0

/-- Read an exponent with nothing behind it. -/
def readExponent? : List Char → Option Int
  | [] => some 0
  | c :: rest =>
    if c = 'e' || c = 'E' then
      let (negative, digits) := Text.splitSign rest
      let (run, after) := digitRun digits
      if run.isEmpty || !after.isEmpty then none
      else
        let n : Int := natOf run
        some (if negative then -n else n)
    else none

/-- Read a number without its sign. -/
def readUnsigned? (s : List Char) : Option Float :=
  let word := s.map Char.toLower
  if word = "inf".toList || word = "infinity".toList then some (1.0 / 0.0)
  else if word = "nan".toList then some (0.0 / 0.0)
  else
    let (whole, rest) := digitRun s
    let (places, rest) := match rest with
      | '.' :: more => digitRun more
      | _ => ([], rest)
    if whole.isEmpty && places.isEmpty then none
    else (readExponent? rest).map fun e =>
      let digits := whole ++ places
      ofDigits (natOf digits) digits.length (e - places.length)

/-- Read a number as it is typed: blanks around, a sign, a point, an exponent, or one of the
words for infinity and for no number. -/
def read? (s : List Char) : Option Float :=
  let (negative, digits) := Text.splitSign (Text.trim s)
  (readUnsigned? digits).map fun x => if negative then -x else x

end Decimal

end Scaffold
