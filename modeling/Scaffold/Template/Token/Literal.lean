import Scaffold.Decimal.Notation
import Scaffold.Text.Case
import Scaffold.Text.CharacterName
import Scaffold.Text.Quoted

/-!
# Literals

Numbers and strings inside tags. Digits may have single underscores between them. A string
stands between quotes of one kind, and a backslash begins an escape.
-/

namespace Scaffold

namespace Template

namespace Literal

/-! ### Numbers -/

/-- Digits that pass a test, each with an underscore in front allowed, and the rest. -/
def looseDigits (test : Char → Bool) : Text → Text × Text
  | [] => ([], [])
  | [c] => if test c then ([c], []) else ([], [c])
  | c :: d :: rest =>
    if test c then
      let (digits, after) := looseDigits test (d :: rest)
      (c :: digits, after)
    else if c = '_' && test d then
      let (digits, after) := looseDigits test rest
      (d :: digits, after)
    else ([], c :: d :: rest)

/-- The value of digits in a base. -/
def valueIn (base : Nat) (digits : Text) : Nat :=
  digits.foldl (fun n c => base * n + (Text.digitValue? c).getD 0) 0

/-- A digit below a base of at most ten, in ASCII. -/
def isBelow (base : Nat) (c : Char) : Bool := 48 ≤ c.toNat && c.toNat < 48 + base

/-- A hexadecimal digit. Decimal digits may be of any script. -/
def isHex (c : Char) : Bool :=
  Text.isDecimal c || ('a' ≤ c && c ≤ 'f') || ('A' ≤ c && c ≤ 'F')

/-- A number with a letter for its base behind the zero. -/
def readBased? (letter : Char) (rest : Text) : Option (Nat × Text) :=
  let read (base : Nat) (test : Char → Bool) :=
    match looseDigits test rest with
    | ([], _) => none
    | (digits, after) => some (valueIn base digits, after)
  if letter = 'b' || letter = 'B' then read 2 (isBelow 2)
  else if letter = 'o' || letter = 'O' then read 8 (isBelow 8)
  else if letter = 'x' || letter = 'X' then read 16 isHex
  else none

/-- The whole number that a text begins with. A number that begins with zero is zero unless the
zero is followed by the letter of a base. -/
def readInteger? : Text → Option (Nat × Text)
  | [] => none
  | c :: rest =>
    if c = '0' then
      let zero := (0, (looseDigits (· == '0') rest).2)
      match rest with
      | letter :: more => some ((readBased? letter more).getD zero)
      | [] => some zero
    else if '1' ≤ c && c ≤ '9' then
      let (digits, after) := looseDigits Text.isDecimal rest
      some (valueIn 10 (c :: digits), after)
    else none

/-- An exponent that a text begins with. -/
def readExponent? : Text → Option (Int × Text)
  | [] => none
  | c :: rest =>
    if c = 'e' || c = 'E' then
      let (negative, digits) := Text.splitSign rest
      match Decimal.digitRun digits with
      | ([], _) => none
      | (run, after) =>
        let n : Int := Decimal.natOf run
        some (if negative then -n else n, after)
    else none

/-- The number with a point or an exponent that a text begins with. -/
def readFloat? (s : Text) : Option (Float × Text) :=
  match Decimal.digitRun s with
  | ([], _) => none
  | (whole, rest) =>
    let (places, after) := match rest with
      | '.' :: more => Decimal.digitRun more
      | _ => ([], rest)
    let value (places : Text) (e : Int) : Float :=
      let digits := whole ++ places
      Decimal.ofDigits (Decimal.natOf digits) digits.length (e - places.length)
    if places.isEmpty then (readExponent? rest).map fun (e, after) => (value [] e, after)
    else match readExponent? after with
      | some (e, after) => some (value places e, after)
      | none => some (value places 0, after)

/-! ### Strings -/

/-- A character in ASCII, escaped if need be. -/
def inAscii (c : Char) : Text :=
  let n := c.toNat
  if n < 0x80 then [c]
  else if n < 0x100 then '\\' :: 'x' :: Text.hexDigits 2 n
  else if n < 0x10000 then '\\' :: 'u' :: Text.hexDigits 4 n
  else '\\' :: 'U' :: Text.hexDigits 8 n

/-- The value of exactly `count` hexadecimal digits, and the rest. -/
def readHex? (count : Nat) (s : Text) : Option (Nat × Text) :=
  let digits := s.take count
  if digits.length = count && digits.all (fun c => isHex c && c.toNat < 128) then
    some (valueIn 16 digits, s.drop count)
  else none

/-- What a single character behind a backslash stands for. -/
def simpleEscape? (c : Char) : Option Text :=
  if c = '\n' then some []
  else if c = '\\' || c = '\'' || c = '"' then some [c]
  else if c = 'a' then some [Char.ofNat 7]
  else if c = 'b' then some [Char.ofNat 8]
  else if c = 't' then some ['\t']
  else if c = 'n' then some ['\n']
  else if c = 'v' then some [Char.ofNat 11]
  else if c = 'f' then some [Char.ofNat 12]
  else if c = 'r' then some ['\r']
  else none

/-- A code behind a backslash: octal, hexadecimal, or a name in braces. Nothing when there is no
code, and an inner nothing when it is broken. -/
def readCode? (c : Char) (rest : Text) : Option (Option (Nat × Text)) :=
  if isBelow 8 c then
    let more := (rest.take 2).takeWhile (isBelow 8)
    some (some (valueIn 8 (c :: more), rest.drop more.length))
  else if c = 'x' then some (readHex? 2 rest)
  else if c = 'u' then some (readHex? 4 rest)
  else if c = 'U' then some (readHex? 8 rest)
  else if c = 'N' then
    match rest with
    | '\x7b' :: more =>
      some <| (Text.cutAt? ['\x7d'] more).bind fun (name, after) =>
        (Text.named? (Text.string (Text.upper name))).map fun n => (n, after)
    | _ => some none
  else none

/-- The codes of a text with its escapes resolved. -/
def unescapeCodes : (fuel : Nat) → Text → Option (List Nat)
  | 0, _ => none
  | _, [] => some []
  | _, ['\\'] => none
  | fuel + 1, '\\' :: c :: rest =>
    match simpleEscape? c with
    | some s => (unescapeCodes fuel rest).map fun codes => s.map Char.toNat ++ codes
    | none => match readCode? c rest with
      | some (some (n, after)) =>
        if 0x110000 ≤ n then none else (unescapeCodes fuel after).map fun codes => n :: codes
      | some none => none
      | none => (unescapeCodes fuel rest).map fun codes => 0x5c :: c.toNat :: codes
  | fuel + 1, c :: rest => (unescapeCodes fuel rest).map fun codes => c.toNat :: codes

/-- Characters of codes. Two halves of a pair make one character. -/
def ofCodes : List Nat → Text
  | [] => []
  | [n] => [Char.ofNat n]
  | n :: m :: rest =>
    if 0xd800 ≤ n && n < 0xdc00 && 0xdc00 ≤ m && m < 0xe000 then
      Char.ofNat (0x10000 + (n - 0xd800) * 0x400 + (m - 0xdc00)) :: ofCodes rest
    else Char.ofNat n :: ofCodes (m :: rest)

/-- The text between the quotes of a string, with its escapes resolved. Characters outside ASCII
count as escapes themselves. -/
def unescape? (s : Text) : Option Text :=
  let ascii := s.flatMap inAscii
  (unescapeCodes (ascii.length + 1) ascii).map ofCodes

/-- The text up to a closing quote, as it is written, and what follows the quote. -/
def upToQuote? (quote : Char) : Text → Option (Text × Text)
  | [] => none
  | ['\\'] => none
  | '\\' :: c :: rest => (upToQuote? quote rest).map fun (s, after) => ('\\' :: c :: s, after)
  | c :: rest =>
    if c = quote then some ([], rest)
    else (upToQuote? quote rest).map fun (s, after) => (c :: s, after)

/-- The string that a text begins with, as it is written between its quotes, and the rest. -/
def readString? : Text → Option (Text × Text)
  | [] => none
  | c :: rest => if c = '\'' || c = '"' then upToQuote? c rest else none

end Literal

end Template

end Scaffold
