import Scaffold.Text.Basic

/-!
# Tags

What kind of value a node stands for. A tag may be written out; a plain scalar without one gets
its tag from its look.

The looks are those of version 1.1 of the language: truth values also as `yes`, `no`, `on` and
`off`; integers also in binary, in octal with a leading zero, in hexadecimal and in base 60,
with underscores; floats with a point, and with a sign in their exponent.
-/

namespace Scaffold

namespace Yaml

/-- The kind of value of a node. -/
inductive Tag
  | null
  | bool
  | int
  | float
  | binary
  | moment
  | orderedMap
  | pairs
  | set
  | text
  | seq
  | map
  /-- The key whose value is merged into the mapping. -/
  | merge
  /-- The key whose value stands for the mapping where a scalar is needed. -/
  | default
  /-- A kind that nothing can be made of. -/
  | unknown
deriving DecidableEq, Repr

namespace Tag

/-- What the names of the common tags begin with. -/
def stem : Text := "tag:yaml.org,2002:".toList

/-- The names of the common tags. -/
def names : List (String × Tag) :=
  [("null", null), ("bool", bool), ("int", int), ("float", float), ("binary", binary),
   ("timestamp", moment), ("omap", orderedMap), ("pairs", pairs), ("set", set), ("str", text),
   ("seq", seq), ("map", map), ("merge", merge), ("value", default)]

/-- The tag with a name. -/
def ofName (name : Text) : Tag :=
  match names.find? fun (word, _) => stem ++ word.toList = name with
  | some (_, tag) => tag
  | none => unknown

/-! ### The look of plain scalars -/

/-- A digit of the given base, or an underscore. -/
def isDigitIn (base : Nat) (c : Char) : Bool :=
  c == '_' || (c.isDigit && c.toNat - 48 < base) ||
  (base == 16 && (('a' ≤ c && c ≤ 'f') || ('A' ≤ c && c ≤ 'F')))

/-- The text without a sign in front. -/
def unsigned : Text → Text
  | '+' :: rest => rest
  | '-' :: rest => rest
  | s => s

/-- One or two digits below sixty. -/
def isSixtieth : Text → Bool
  | [a] => a.isDigit
  | [a, b] => '0' ≤ a && a ≤ '5' && b.isDigit
  | _ => false

/-- Parts behind colons, each below sixty. At least one. -/
def areSixtieths (parts : List Text) : Bool := !parts.isEmpty && parts.all isSixtieth

/-- Digits and underscores, a digit first. -/
def isDigits : Text → Bool
  | c :: rest => c.isDigit && rest.all (isDigitIn 10)
  | [] => false

/-- The look of an integer. -/
def looksInt (s : Text) : Bool :=
  match unsigned s with
  | '0' :: 'b' :: digits => !digits.isEmpty && digits.all (isDigitIn 2)
  | '0' :: 'x' :: digits => !digits.isEmpty && digits.all (isDigitIn 16)
  | ['0'] => true
  | '0' :: digits => digits.all (isDigitIn 8)
  | body =>
    match Text.splitOnChar ':' body with
    | [digits] => isDigits digits
    | digits :: parts => isDigits digits && areSixtieths parts
    | [] => false

/-- An exponent with its sign, or nothing. -/
def isExponent : Text → Bool
  | [] => true
  | e :: sign :: digits =>
    (e == 'e' || e == 'E') && (sign == '+' || sign == '-') && !digits.isEmpty &&
      digits.all Char.isDigit
  | _ => false

/-- What follows the point of a float: digits and underscores, then an exponent. -/
def isFraction (s : Text) : Bool := isExponent (s.dropWhile (isDigitIn 10))

/-- The look of a float. -/
def looksFloat (s : Text) : Bool :=
  let body := unsigned s
  let infinite := ["inf", "Inf", "INF"].any fun w => body = '.' :: w.toList
  let nan := ["nan", "NaN", "NAN"].any fun w => s = '.' :: w.toList
  let leading := match s with
    | '.' :: c :: rest => c.isDigit && isFraction rest
    | _ => false
  let ordinary := match body.dropWhile (isDigitIn 10) with
    | '.' :: rest => isDigits (body.takeWhile (isDigitIn 10)) && isFraction rest
    | _ => false
  let sixtieths :=
    match body.dropWhile (· != '.') with
    | '.' :: places =>
      match Text.splitOnChar ':' (body.takeWhile (· != '.')) with
      | digits :: parts => isDigits digits && areSixtieths parts && places.all (isDigitIn 10)
      | [] => false
    | _ => false
  infinite || nan || leading || ordinary || sixtieths

/-- Between `low` and `high` digits in front, and what follows them. -/
def takeDigits? (low high : Nat) (s : Text) : Option Text :=
  let count := ((s.take high).takeWhile Char.isDigit).length
  if low ≤ count then some (s.drop count) else none

/-- The given character in front, and what follows it. -/
def takeChar? (c : Char) : Text → Option Text
  | d :: rest => if c = d then some rest else none
  | [] => none

/-- A zone behind a time: `Z`, or hours with or without minutes. -/
def isZone (s : Text) : Bool :=
  match s with
  | [] => true
  | ['Z'] => true
  | sign :: rest =>
    (sign == '+' || sign == '-') &&
    match takeDigits? 1 2 rest with
    | some [] => true
    | some (':' :: minutes) => takeDigits? 2 2 minutes == some []
    | _ => false

/-- The look of a time of day: with seconds, and with anything behind the point or in the
zone. -/
def looksTime (s : Text) : Bool :=
  let seconds? := do
    let s ← takeChar? ':' (← takeDigits? 1 2 s)
    let s ← takeChar? ':' (← takeDigits? 2 2 s)
    takeDigits? 2 2 s
  match seconds? with
  | some rest =>
    let rest := match rest with
      | '.' :: places => places.dropWhile Char.isDigit
      | _ => rest
    let zone := rest.dropWhile fun c => c == ' ' || c == '\t'
    if zone.isEmpty then rest.isEmpty else isZone zone
  | none => false

/-- The look of a day, or of a day and a time behind a `T` or blanks. -/
def looksMoment (s : Text) : Bool :=
  let exact := (do
    let s ← takeChar? '-' (← takeDigits? 4 4 s)
    let s ← takeChar? '-' (← takeDigits? 2 2 s)
    takeDigits? 2 2 s) == some []
  let day? := do
    let s ← takeChar? '-' (← takeDigits? 4 4 s)
    let s ← takeChar? '-' (← takeDigits? 1 2 s)
    takeDigits? 1 2 s
  exact || match day? with
    | some (c :: rest) =>
      if c == 'T' || c == 't' then looksTime rest
      else if c == ' ' || c == '\t' then
        looksTime (rest.dropWhile fun c => c == ' ' || c == '\t')
      else false
    | _ => false

/-- The words for truth values, as they may be written. -/
def boolWords : List String :=
  ["yes", "Yes", "YES", "no", "No", "NO", "true", "True", "TRUE", "false", "False", "FALSE",
   "on", "On", "ON", "off", "Off", "OFF"]

/-- The words for nothing. -/
def nullWords : List String := ["", "~", "null", "Null", "NULL"]

/-- The text without one line feed at its end. -/
def withoutLastBreak (s : Text) : Text :=
  if s.getLast? = some '\n' then s.dropLast else s

/-- The tag that a scalar gets from its look. A line feed at its end is overlooked. -/
def ofLook (s : Text) : Tag :=
  let body := withoutLastBreak s
  if s.head? = some '\n' then text
  else if boolWords.any fun w => w.toList = body then bool
  else if looksFloat body then float
  else if looksInt body then int
  else if body = ['<', '<'] then merge
  else if nullWords.any fun w => w.toList = body then null
  else if looksMoment body then moment
  else if body = ['='] then default
  else if body = ['!'] || body = ['&'] || body = ['*'] then unknown
  else text

end Tag

end Yaml

end Scaffold
