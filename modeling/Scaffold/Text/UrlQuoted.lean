import Scaffold.Text.Utf8

/-!
# Text in addresses

A text as a part of an address: letters, digits and a few signs stand for themselves, every
other byte of its encoding is a percent sign with two digits.
-/

namespace Scaffold

namespace Text

/-- Whether a byte stands for itself. -/
def isPlainByte (keeps : Text) (b : UInt8) : Bool :=
  let c := Char.ofNat b.toNat
  b < 128 && (c.isAlphanum || (of "_.-~").contains c || keeps.contains c)

/-- A byte in an address. -/
def urlQuotedByte (keeps : Text) (b : UInt8) : Text :=
  if isPlainByte keeps b then [Char.ofNat b.toNat]
  else '%' :: (if b < 16 then ['0'] else []) ++ (Nat.toDigits 16 b.toNat).map Char.toUpper

/-- Bytes in the path of an address. -/
def urlQuotedPath (bytes : List UInt8) : Text := bytes.flatMap (urlQuotedByte ['/'])

/-- Bytes in the query of an address. A blank becomes a plus sign. -/
def urlQuotedQuery (bytes : List UInt8) : Text :=
  bytes.flatMap fun b => if b = 32 then ['+'] else urlQuotedByte [] b

end Text

end Scaffold
