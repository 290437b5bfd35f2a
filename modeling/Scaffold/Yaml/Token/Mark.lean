import Scaffold.Text.Utf8
import Scaffold.Yaml.Token.Basic

/-!
# Directives, anchors and tags

The parts of a YAML text that mark what follows them.
-/

namespace Scaffold

namespace Yaml

namespace Lexer

/-- A character of a name. -/
def isNameChar (c : Char) : Bool := c.isAlphanum || c == '-' || c == '_'

/-- A hexadecimal digit. -/
def isHex (c : Char) : Bool := c.isDigit || ('a' ≤ c && c ≤ 'f') || ('A' ≤ c && c ≤ 'F')

/-- The number that hexadecimal digits write. -/
def hexValue (digits : Text) : Nat :=
  digits.foldl (fun n c => 16 * n + (if c.isDigit then c.toNat - 48
    else if 'a' ≤ c then c.toNat - 87 else c.toNat - 55)) 0

/-- A number of the version. -/
def versionNumber : Lexer Nat := do
  let digits ← takeWhile Char.isDigit
  if digits.isEmpty then fail
  return digits.foldl (fun n c => 10 * n + (c.toNat - 48)) 0

/-- A percent-encoded run of bytes. -/
def escapedBytes : (fuel : Nat) → Lexer (List UInt8)
  | 0 => return []
  | fuel + 1 => do
    if (← peek) ≠ '%' then return []
    let a ← peekAt 1
    let b ← peekAt 2
    if !isHex a || !isHex b then fail
    skip 3
    return (hexValue [a, b]).toUInt8 :: (← escapedBytes fuel)

/-- A character of a tag that stands for itself. -/
def isTagChar (c : Char) : Bool := c.isAlphanum || "-;/?:@&=+$,_.!~*'()[]".toList.contains c

/-- The part of a tag behind its handle, from a place on. -/
def tagChars : (fuel : Nat) → Lexer Text
  | 0 => return []
  | fuel + 1 => do
    let c ← peek
    if c == '%' then
      match Text.decode? (← escapedBytes (← get).rest.length) with
      | some s => return s ++ (← tagChars fuel)
      | none => fail
    else if isTagChar c then
      let run ← takeWhile isTagChar
      return run ++ (← tagChars fuel)
    else return []

/-- The part of a tag behind its handle. It may not be empty. -/
def tagSuffix : Lexer Text := do
  let start := (← get).index
  let suffix ← tagChars ((← get).rest.length + 1)
  if (← get).index = start then fail
  return suffix

/-- A tag handle: an exclamation mark, or a name between two of them. -/
def tagHandle : Lexer Text := do
  if (← peek) ≠ '!' then fail
  skip 1
  if (← peek) == ' ' then return ['!']
  let name ← takeWhile isNameChar
  if (← peek) ≠ '!' then fail
  skip 1
  return '!' :: name ++ ['!']

/-- What a directive says about the version. -/
def versionSetting : Lexer Setting := do
  skipWhile (· == ' ')
  let major ← versionNumber
  if (← peek) ≠ '.' then fail
  skip 1
  let minor ← versionNumber
  if !isSpaceOrEnd (← peek) then fail
  return .version major minor

/-- What a handle stands for, behind the handle. -/
def tagStart : Lexer Text := do
  if (← peek) ≠ ' ' then fail
  skipWhile (· == ' ')
  let start ← tagSuffix
  if !isSpaceOrEnd (← peek) then fail
  return start

/-- What a directive says about a handle. -/
def tagSetting : Lexer Setting := do
  skipWhile (· == ' ')
  let handle ← tagHandle
  return .tag handle (← tagStart)

/-- A directive of an unknown name, which says nothing. -/
def otherSetting : Lexer Setting := do
  skipWhile (!isBreakOrEnd ·)
  return .other

/-- A directive, from its percent sign to the end of its line. -/
def setting : Lexer Token := do
  skip 1
  let name ← takeWhile isNameChar
  if name.isEmpty || !isSpaceOrEnd (← peek) then fail
  let s ←
    if name = Text.of "YAML" then versionSetting
    else if name = Text.of "TAG" then tagSetting
    else otherSetting
  skipLineEnd
  return .setting s

/-- The name of an anchor or an alias, from its mark on. -/
def anchorName : Lexer Text := do
  skip 1
  let name ← takeWhile isNameChar
  let c ← peek
  if name.isEmpty || !(isGapOrEnd c || "?:,]\x7d%@".toList.contains c || c.toNat == 96) then fail
  return name

/-- A tag: verbatim between angle brackets, a lone exclamation mark, or a handle with a suffix. -/
def tag : Lexer Token := do
  let c ← peekAt 1
  let t ←
    if c == '<' then do
      skip 2
      let suffix ← tagSuffix
      if (← peek) ≠ '>' then fail
      skip 1
      pure (WrittenTag.mk none suffix)
    else if isGapOrEnd c then do
      skip 1
      pure (WrittenTag.mk none ['!'])
    else do
      let named := (((← get).rest.drop 1).takeWhile (!isSpaceOrEnd ·)).contains '!'
      let handle ← if named then tagHandle else do
        skip 1
        pure ['!']
      pure (WrittenTag.mk (some handle) (← tagSuffix))
  if !isSpaceOrEnd (← peek) then fail
  return .tag t

end Lexer

end Yaml

end Scaffold
