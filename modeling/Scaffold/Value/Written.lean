import Scaffold.Decimal.Notation
import Scaffold.Text.Quoted
import Scaffold.Value.Basic

/-!
# Values as text

Two ways to write a value: `display` shows what it is, with quotes around text, and `plain`
gives text and times as they are and everything else as `display` does.
-/

namespace Scaffold

open Calendar

namespace Value

/-- Numbers with commas between, in brackets behind a name. -/
def callText (name : String) (arguments : List Text) : Text :=
  Text.of name ++ '(' :: Text.join [',', ' '] arguments ++ [')']

/-- A distance from universal time, shown. -/
def zoneDisplay (z : Int) : Text :=
  if z = 0 then Text.of "datetime.timezone.utc"
  else
    let seconds : Int := 60 * z
    let days := Int.fdiv seconds 86400
    let rest := seconds - 86400 * days
    let parts :=
      (if days = 0 then [] else [Text.of "days=" ++ Text.ofInt days]) ++
      (if rest = 0 then [] else [Text.of "seconds=" ++ Text.ofInt rest])
    callText "datetime.timezone" [callText "datetime.timedelta" parts]

/-- A day, shown. -/
def dateDisplay (d : Date) : Text :=
  callText "datetime.date" [Text.ofNat d.year, Text.ofNat d.month, Text.ofNat d.day]

/-- A time, shown. Seconds are left out when they and their fraction are zero. -/
def momentDisplay (t : Moment) : Text :=
  callText "datetime.datetime" <|
    [Text.ofNat t.date.year, Text.ofNat t.date.month, Text.ofNat t.date.day,
      Text.ofNat t.hour, Text.ofNat t.minute] ++
    (if t.micro ≠ 0 then [Text.ofNat t.second, Text.ofNat t.micro]
     else if t.second ≠ 0 then [Text.ofNat t.second] else []) ++
    (match t.zone with
      | some z => [Text.of "tzinfo=" ++ zoneDisplay z]
      | none => [])

/-- A truth value. -/
def boolText (b : Bool) : Text := Text.of (if b then "True" else "False")

/-- Items with commas between. -/
def items (parts : List Text) : Text := Text.join [',', ' '] parts

/-- Items of a tuple: a single one is followed by a comma. -/
def tupleText (parts : List Text) : Text :=
  match parts with
  | [part] => '(' :: part ++ [',', ')']
  | _ => '(' :: items parts ++ [')']

/-- Items of a set. -/
def setText (parts : List Text) : Text :=
  if parts.isEmpty then Text.of "set()" else '\x7b' :: items parts ++ ['\x7d']

mutual

/-- A value, shown. -/
def display : Value → Text
  | null => Text.of "None"
  | bool b => boolText b
  | int n => Text.ofInt n
  | float x => Decimal.written x
  | text s => Text.quoted s
  | bytes b => Text.quotedBytes b
  | date d => dateDisplay d
  | moment t => momentDisplay t
  | list vs => '[' :: items (displayAll vs) ++ [']']
  | tuple vs => tupleText (displayAll vs)
  | set vs => setText (displayAll vs)
  | map _ es => '\x7b' :: items (displayEntries es) ++ ['\x7d']
  | cycle _ true => '\x7b' :: Text.of "..." ++ ['\x7d']
  | cycle _ false => Text.of "[...]"

/-- Values, each shown. -/
def displayAll : List Value → List Text
  | [] => []
  | v :: vs => v.display :: displayAll vs

/-- Entries of a mapping, each shown. -/
def displayEntries : List (Value × Value) → List Text
  | [] => []
  | (k, v) :: es => (k.display ++ ':' :: ' ' :: v.display) :: displayEntries es

end

/-- A value as text that goes into other text. -/
def plain : Value → Text
  | text s => s
  | date d => d.text
  | moment t => t.text ' '
  | v => v.display

end Value

end Scaffold
