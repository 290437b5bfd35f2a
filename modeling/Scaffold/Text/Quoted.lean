import Scaffold.Text.Basic
import Scaffold.Text.Printable

/-!
# Quoted text

A text between quotes, with an escape for the quote, the backslash and whatever is not
printable. Single quotes are used unless the text holds one and no double quote.
-/

namespace Scaffold

namespace Text

/-- `count` hexadecimal digits of a number. -/
def hexDigits (count n : Nat) : Text :=
  let digits := Nat.toDigits 16 n
  List.replicate (count - digits.length) '0' ++ digits

/-- A character between quotes. -/
def escapeChar (quote c : Char) : Text :=
  if c = quote || c = '\\' then ['\\', c]
  else if c = '\n' then of "\\n"
  else if c = '\r' then of "\\r"
  else if c = '\t' then of "\\t"
  else if isPrintable c then [c]
  else if c.toNat < 0x100 then '\\' :: 'x' :: hexDigits 2 c.toNat
  else if c.toNat < 0x10000 then '\\' :: 'u' :: hexDigits 4 c.toNat
  else '\\' :: 'U' :: hexDigits 8 c.toNat

/-- The quote that a text is put between. -/
def quoteFor (s : Text) : Char :=
  if s.contains '\'' && !s.contains '"' then '"' else '\''

/-- The text between quotes. -/
def quoted (s : Text) : Text :=
  let quote := quoteFor s
  quote :: s.flatMap (escapeChar quote) ++ [quote]

/-- Bytes between quotes, marked as such. Only ASCII is shown as it is. -/
def quotedBytes (bytes : List UInt8) : Text :=
  let shown := bytes.map fun b => Char.ofNat b.toNat
  let quote := quoteFor shown
  'b' :: quote :: shown.flatMap (fun c =>
    if c.toNat < 128 then escapeChar quote c else '\\' :: 'x' :: hexDigits 2 c.toNat) ++ [quote]

end Text

end Scaffold
