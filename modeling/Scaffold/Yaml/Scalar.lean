import Scaffold.Decimal.Notation
import Scaffold.Text.Case
import Scaffold.Text.Integer
import Scaffold.Value.Basic
import Scaffold.Yaml.Node.Basic

/-!
# Values of scalars

What a scalar with a tag stands for. The look of a plain scalar does not promise a value: a day
may not be in the calendar, and the digits of a number may all be underscores.
-/

namespace Scaffold

open Calendar

namespace Yaml

namespace Scalar

/-- The longest decimal numeral that is read as an integer. -/
def longestNumeral : Nat := 4300

/-- The mark of a base in front of digits, left out if it is there. -/
def withoutBaseMark (base : Nat) : Text → Text
  | '0' :: c :: rest =>
    let mark := if base = 16 then 'x' else if base = 8 then 'o' else 'b'
    if c.toLower = mark then
      match rest with
      | '_' :: more => more
      | _ => rest
    else '0' :: c :: rest
  | s => s

/-- A numeral in a base other than ten. -/
def readBased (base : Nat) (s : Text) : Except Fault Int :=
  let (negative, digits) := Text.splitSign (Text.trim s)
  match Text.readDigits? base 0 false (withoutBaseMark base digits) with
  | some n => .ok (if negative then -n else n)
  | none => .error .badValue

/-- A decimal numeral. -/
def readDecimal (s : Text) : Except Fault Int :=
  if longestNumeral < (s.filter Text.isDecimal).length then .error .badValue
  else match Text.readInteger? s with
    | some n => .ok n
    | none => .error .badValue

/-- The sign of a numeral and its body, underscores left out. An empty numeral is a fault of its
own. -/
def signAndBody (s : Text) : Except Fault (Bool × Text) :=
  match s.filter (· ≠ '_') with
  | [] => .error .emptyNumber
  | '-' :: body => .ok (true, body)
  | '+' :: body => .ok (false, body)
  | body => .ok (false, body)

/-- An integer: decimal, binary, octal, hexadecimal, or in base 60 with colons. -/
def readInt (s : Text) : Except Fault Int := do
  let (negative, body) ← signAndBody s
  let n ←
    match body with
    | [] => throw .emptyNumber
    | ['0'] => pure 0
    | '0' :: 'b' :: digits => readBased 2 digits
    | '0' :: 'x' :: digits => readBased 16 digits
    | '0' :: _ => readBased 8 body
    | _ =>
      if body.contains ':' then
        return (if negative then -1 else 1) *
          (← (Text.splitOnChar ':' body).mapM readDecimal).foldl (fun n d => 60 * n + d) 0
      else readDecimal body
  return if negative then -n else n

/-- One part of a float. -/
def readFloatPart (s : Text) : Except Fault Float :=
  match Decimal.read? s with
  | some x => .ok x
  | none => .error .badValue

/-- The sum of the parts of a float in base 60, the last part first. -/
def sumSixtieths : (base : Nat) → List Float → Float → Float
  | _, [], sum => sum
  | base, x :: more, sum => sumSixtieths (60 * base) more (sum + x * base.toFloat)

/-- A float: decimal, infinite, no number, or in base 60 with colons. -/
def readFloat (s : Text) : Except Fault Float := do
  let (negative, body) ← signAndBody (Text.lower s)
  let sign : Float := if negative then -1.0 else 1.0
  if body = Text.of ".inf" then return sign * (1.0 / 0.0)
  else if body = Text.of ".nan" then return 0.0 / 0.0
  else if body.contains ':' then
    return sign * sumSixtieths 1 (← (Text.splitOnChar ':' body).mapM readFloatPart).reverse 0.0
  else return sign * (← readFloatPart body)

/-- The words for true. -/
def trueWords : List String := ["yes", "true", "on"]

/-- The words for false. -/
def falseWords : List String := ["no", "false", "off"]

/-- A truth value in any letter case. -/
def readBool (s : Text) : Except Fault Bool :=
  let word := Text.lower s
  if trueWords.any fun w => w.toList = word then .ok true
  else if falseWords.any fun w => w.toList = word then .ok false
  else .error .badBool

/-- The number of ASCII digits at the front, between `low` and `high` of them, and the rest. -/
def digits? (low high : Nat) (s : Text) : Option (Nat × Text) :=
  let run := (s.take high).takeWhile Char.isDigit
  if low ≤ run.length then some (Decimal.natOf run, s.drop run.length) else none

/-- A character at the front, and the rest. -/
def after? (c : Char) (s : Text) : Option Text := Tag.takeChar? c s

/-- A zone behind a time: none, `Z`, or a signed distance. -/
def zone? (s : Text) : Option (Option Int) :=
  match s.dropWhile fun c => c == ' ' || c == '\t' with
  | [] => if s.isEmpty then some none else none
  | ['Z'] => some (some 0)
  | sign :: rest =>
    if sign = '+' || sign = '-' then do
      let (hours, rest) ← digits? 1 2 rest
      let (minutes, rest) ← match rest with
        | ':' :: more => digits? 2 2 more
        | _ => some (0, rest)
      if !rest.isEmpty then none
      let z : Int := 60 * hours + minutes
      return some (if sign = '-' then -z else z)
    else none

/-- A day at the front, and the rest. -/
def day? (s : Text) : Option (Date × Text) := do
  let (year, s) ← digits? 4 4 s
  let (month, s) ← digits? 1 2 (← after? '-' s)
  let (day, s) ← digits? 1 2 (← after? '-' s)
  return (⟨year, month, day⟩, s)

/-- A time of day with its zone. -/
def time? (date : Date) (s : Text) : Option Moment := do
  let (hour, s) ← digits? 1 2 s
  let (minute, s) ← digits? 2 2 (← after? ':' s)
  let (second, s) ← digits? 2 2 (← after? ':' s)
  let (places, s) := match s with
    | '.' :: more => (more.takeWhile Char.isDigit, more.dropWhile Char.isDigit)
    | _ => ([], s)
  let micro := Decimal.natOf ((places ++ List.replicate 6 '0').take 6)
  return ⟨date, hour, minute, second, micro, ← zone? s⟩

/-- A day, or a time on a day. It has to be one of the calendar. -/
def readMoment (s : Text) : Except Fault Value :=
  let s := Tag.withoutLastBreak s
  match day? s with
  | none => .error .notMoment
  | some (date, []) => if date.isValid then .ok (.date date) else .error .badValue
  | some (date, c :: rest) =>
    let gap := c = ' ' || c = '\t'
    if c = 'T' || c = 't' || gap then
      match time? date (if gap then rest.dropWhile fun c => c == ' ' || c == '\t' else rest) with
      | some t => if t.isValid then .ok (.moment t) else .error .badValue
      | none => .error .notMoment
    else .error .notMoment

/-! ### Base 64 -/

/-- The value of a base 64 digit. -/
def sextet? (c : Char) : Option Nat :=
  if 'A' ≤ c && c ≤ 'Z' then some (c.toNat - 65)
  else if 'a' ≤ c && c ≤ 'z' then some (c.toNat - 71)
  else if c.isDigit then some (c.toNat + 4)
  else if c = '+' then some 62
  else if c = '/' then some 63
  else none

/-- Bytes of base 64 text. `held` are the digits of a group that is not complete, and `padding`
counts the equal signs since the last digit. Other characters are passed over, and so is
everything behind the padding that completes a group. -/
def decodeBase64 : (held : List Nat) → (padding : Nat) → Text → Except Fault (List UInt8)
  | [], _, [] => .ok []
  | _ :: _, _, [] => .error .malformed
  | held, padding, c :: rest =>
    if c = '=' then
      if 2 ≤ held.length && 4 ≤ held.length + padding + 1 then .ok (flush held)
      else decodeBase64 held (if 2 ≤ held.length then padding + 1 else padding) rest
    else match sextet? c with
      | none => decodeBase64 held padding rest
      | some d =>
        match held with
        | [a, b, e] => (decodeBase64 [] 0 rest).map (flush [a, b, e, d] ++ ·)
        | _ => decodeBase64 (held ++ [d]) 0 rest
where
  /-- The whole bytes that digits hold. -/
  flush : List Nat → List UInt8
    | [a, b] => [(a * 4 + b / 16).toUInt8]
    | [a, b, c] => [(a * 4 + b / 16).toUInt8, (b % 16 * 16 + c / 4).toUInt8]
    | [a, b, c, d] =>
      [(a * 4 + b / 16).toUInt8, (b % 16 * 16 + c / 4).toUInt8, (c % 4 * 64 + d).toUInt8]
    | _ => []

/-- Bytes written in base 64. -/
def readBytes (s : Text) : Except Fault (List UInt8) :=
  if s.all fun c => c.toNat < 128 then decodeBase64 [] 0 s else .error .malformed

/-- The value of a scalar with a tag for scalars. -/
def read (tag : Tag) (s : Text) : Except Fault Value :=
  match tag with
  | .null => .ok .null
  | .bool => (readBool s).map .bool
  | .int => (readInt s).map .int
  | .float => (readFloat s).map .float
  | .binary => (readBytes s).map .bytes
  | .moment => readMoment s
  | .text => .ok (.text s)
  | _ => .error .malformed

end Scalar

end Yaml

end Scaffold
