import Scaffold.Text.Lines

/-!
# A place in a YAML text

Indentation and simple keys depend on the column and the line of a character, so the reader
carries them along. Line feed, carriage return (with or without a line feed), next line and the
two separators of Unicode end a line; a byte order mark takes no column.

Behind the end of the text every look ahead gives the null character, which no YAML text may
contain.
-/

namespace Scaffold

namespace Yaml

/-- Why a YAML text has no value. -/
inductive Fault
  /-- The text is not a YAML document, or a node has a tag that does not fit it. -/
  | malformed
  /-- A scalar that has the form of a number or a date, or is tagged as one, is none; or an
  escape names no code point. -/
  | badValue
  /-- A scalar tagged as an integer or a float is empty. -/
  | emptyNumber
  /-- A scalar tagged as a truth value is none. -/
  | badBool
  /-- A scalar tagged as a time does not have the form of one. -/
  | notMoment
  /-- A mapping stands where the text of a time is needed. -/
  | momentOfMap
  /-- An escape names a code point beyond 31 bits. -/
  | hugeCode
deriving DecidableEq, Repr

/-- What is left of the text, and where that is. -/
structure Cursor where
  rest : Text
  index : Nat
  line : Nat
  column : Nat
deriving Repr

/-- The character behind the end of every text. -/
def endMark : Char := '\x00'

/-- The characters that end a line. -/
def isBreak (c : Char) : Bool :=
  c == '\n' || c == '\r' || c.toNat == 0x85 || c.toNat == 0x2028 || c.toNat == 0x2029

/-- The end of a line or of the text. -/
def isBreakOrEnd (c : Char) : Bool := c == endMark || isBreak c

/-- A space, the end of a line, or the end of the text. -/
def isSpaceOrEnd (c : Char) : Bool := c == ' ' || isBreakOrEnd c

/-- A space, a tab, the end of a line, or the end of the text. -/
def isGapOrEnd (c : Char) : Bool := c == '\t' || isSpaceOrEnd c

namespace Cursor

/-- The beginning of a text. -/
def start (s : Text) : Cursor := ⟨s, 0, 0, 0⟩

/-- The character `n` places ahead. -/
def peekAt (c : Cursor) (n : Nat) : Char := (c.rest.drop n).headD endMark

/-- The next character. -/
def peek (c : Cursor) : Char := c.rest.headD endMark

/-- One character further. -/
def next (c : Cursor) : Cursor :=
  match c.rest with
  | [] => c
  | ch :: rest =>
    let breaks := isBreak ch && !(ch == '\r' && rest.headD endMark == '\n')
    { rest
      index := c.index + 1
      line := if breaks then c.line + 1 else c.line
      column :=
        if breaks then 0
        else if ch.toNat == 0xFEFF || ch == '\r' then c.column
        else c.column + 1 }

/-- `n` characters further. -/
def advance : Nat → Cursor → Cursor
  | 0, c => c
  | n + 1, c => advance n c.next

/-- The characters that pass the test, and the place behind them. -/
def takeWhile (c : Cursor) (test : Char → Bool) : Text × Cursor :=
  let taken := c.rest.takeWhile test
  (taken, c.advance taken.length)

/-- The place behind the characters that pass the test. -/
def skipWhile (c : Cursor) (test : Char → Bool) : Cursor := (c.takeWhile test).2

/-- The place behind spaces and a comment. -/
def skipRemark (c : Cursor) : Cursor :=
  let c := c.skipWhile (· == ' ')
  if c.peek == '#' then c.skipWhile (!isBreakOrEnd ·) else c

/-- The line end that comes next, as it is kept, and the place behind it. The ends of ordinary
lines are all kept as a line feed. -/
def takeBreak (c : Cursor) : Text × Cursor :=
  let ch := c.peek
  if !isBreak ch then ([], c)
  else if ch == '\r' && c.peekAt 1 == '\n' then (['\n'], c.advance 2)
  else if ch.toNat == 0x2028 || ch.toNat == 0x2029 then ([ch], c.next)
  else (['\n'], c.next)

/-- Whether `---` or `...` stands here with a gap behind it. -/
def atMarker (c : Cursor) (marker : Text) : Bool :=
  marker.isPrefixOf c.rest && isGapOrEnd (c.peekAt 3)

/-- Whether one of the two document markers stands here. -/
def atAnyMarker (c : Cursor) : Bool := c.atMarker ['-', '-', '-'] || c.atMarker ['.', '.', '.']

end Cursor

/-- A step of reading a YAML text. -/
abbrev Lexer := StateT Cursor (Except Fault)

namespace Lexer

/-- The text is malformed. -/
def fail {α : Type} : Lexer α := throw .malformed

/-- The next character. -/
def peek : Lexer Char := return (← get).peek

/-- The character `n` places ahead. -/
def peekAt (n : Nat) : Lexer Char := return (← get).peekAt n

/-- Move past `n` characters. -/
def skip (n : Nat) : Lexer Unit := modify (Cursor.advance n)

/-- Take the characters that pass the test. -/
def takeWhile (test : Char → Bool) : Lexer Text := do
  let (taken, c) := (← get).takeWhile test
  set c
  return taken

/-- Move past the characters that pass the test. -/
def skipWhile (test : Char → Bool) : Lexer Unit := modify (·.skipWhile test)

/-- Move past spaces and a comment. -/
def skipRemark : Lexer Unit := modify Cursor.skipRemark

/-- Take the line end that comes next. -/
def takeBreak : Lexer Text := do
  let (taken, c) := (← get).takeBreak
  set c
  return taken

/-- Move past spaces, a comment, and the end of the line. Nothing else may stand there. -/
def skipLineEnd : Lexer Unit := do
  skipRemark
  if isBreakOrEnd (← peek) then
    let _ ← takeBreak
  else fail

end Lexer

end Yaml

end Scaffold
