import Scaffold.Template.Item.Given
import Scaffold.Text.Integer

/-!
# Members of dates and times

The parts of a day or a time, its standard text, its place in the week, and its text to order.
-/

namespace Scaffold

namespace Template

namespace Item

open Calendar

namespace TimeMember

/-- The names of the members that are called, for days. -/
def dateNames : List String := ["isoformat", "isoweekday", "strftime", "toordinal", "weekday"]

/-- The names of the members that are called, for times. -/
def momentNames : List String := dateNames ++ ["date", "timestamp"]

/-- The first moment of a day. -/
def startOf (d : Date) : Moment := ⟨d, 0, 0, 0, 0, none⟩

/-- A part of a day. -/
def datePart? (name : Text) (d : Date) : Option Item :=
  if name = Text.of "year" then some (nat d.year)
  else if name = Text.of "month" then some (nat d.month)
  else if name = Text.of "day" then some (nat d.day)
  else none

/-- A part of a time. -/
def momentPart? (name : Text) (t : Moment) : Option Item :=
  if name = Text.of "hour" then some (nat t.hour)
  else if name = Text.of "minute" then some (nat t.minute)
  else if name = Text.of "second" then some (nat t.second)
  else if name = Text.of "microsecond" then some (nat t.micro)
  else datePart? name t.date

/-- The number of a day, from the first day of year 1 on. -/
def ordinal (d : Date) : Nat := daysBeforeYear d.year + daysBeforeMonth d.year d.month + d.day

/-- The place of a day in its week, from Monday on. -/
def weekday (d : Date) : Nat := (ordinal d + 6) % 7

/-- The names of the days of the week. -/
def dayNames : List String :=
  ["Monday", "Tuesday", "Wednesday", "Thursday", "Friday", "Saturday", "Sunday"]

/-- The names of the months. -/
def monthNames : List String :=
  ["January", "February", "March", "April", "May", "June", "July", "August", "September",
    "October", "November", "December"]

/-- The text of a name in a list. -/
def nameAt (names : List String) (i : Nat) : Text := Text.of (names.getD i "")

/-- What a letter behind a percent sign stands for. -/
def directive? (t : Moment) (letter : Char) : Option Text :=
  let d := t.date
  let half := if t.hour % 12 = 0 then 12 else t.hour % 12
  match letter with
  | 'Y' => some (Text.ofNat d.year)
  | 'm' => some (padded 2 d.month)
  | 'd' => some (padded 2 d.day)
  | 'H' => some (padded 2 t.hour)
  | 'I' => some (padded 2 half)
  | 'M' => some (padded 2 t.minute)
  | 'S' => some (padded 2 t.second)
  | 'f' => some (padded 6 t.micro)
  | 'y' => some (padded 2 (d.year % 100))
  | 'j' => some (padded 3 (daysBeforeMonth d.year d.month + d.day))
  | 'A' => some (nameAt dayNames (weekday d))
  | 'a' => some ((nameAt dayNames (weekday d)).take 3)
  | 'B' => some (nameAt monthNames (d.month - 1))
  | 'b' => some ((nameAt monthNames (d.month - 1)).take 3)
  | 'p' => some (Text.of (if t.hour < 12 then "AM" else "PM"))
  | 'w' => some (Text.ofNat ((weekday d + 1) % 7))
  | 'u' => some (Text.ofNat (weekday d + 1))
  | 'F' => some d.text
  | 'T' => some (padded 2 t.hour ++ ':' :: padded 2 t.minute ++ ':' :: padded 2 t.second)
  | 'z' => some (match t.zone with
    | some z => (zoneText z).filter (· ≠ ':')
    | none => [])
  | '%' => some ['%']
  | _ => none

/-- A time as a text with directives in it tells. -/
def formatted (t : Moment) : Text → Text
  | '%' :: c :: s => match directive? t c with
    | some put => put ++ formatted t s
    | none => '%' :: c :: formatted t s
  | c :: s => c :: formatted t s
  | [] => []

/-- Call a member of a day. -/
def callDate (d : Date) (t : Moment) (name : Text) (g : Given) : Except Fault Item :=
  if name = Text.of "strftime" then do
    match ← g.forParameters [("format", none)] with
    | [text _ s] => return plain (formatted t s)
    | _ => throw .unfit
  else do
    let _ ← g.onlyByPosition []
    if name = Text.of "isoformat" then return plain d.text
    else if name = Text.of "isoweekday" then return nat (weekday d + 1)
    else if name = Text.of "toordinal" then return nat (ordinal d)
    else if name = Text.of "weekday" then return nat (weekday d)
    else throw .unfit

/-- Call a member of a time. -/
def callMoment (t : Moment) (name : Text) (g : Given) : Except Fault Item :=
  if name = Text.of "isoformat" then do
    match ← g.forParameters [("sep", some (plain ['T']))] with
    | [text _ [c]] => return plain (t.text c)
    | _ => throw .unfit
  else if name = Text.of "date" then do
    let _ ← g.onlyByPosition []
    return date t.date
  else callDate t.date t name g

end TimeMember

end Item

end Template

end Scaffold
