import Scaffold.Yaml.Token.Mark

/-!
# Scalars

The five styles of scalars: quoted once or twice, literal and folded blocks, and plain ones.
A line end inside a quoted or plain scalar becomes a space, and every further one a line feed.
-/

namespace Scaffold

namespace Yaml

namespace Lexer

/-! ### Quoted scalars -/

/-- What a single character behind a backslash means. -/
def escapeOf? : Char → Option Nat
  | '0' => some 0
  | 'a' => some 7
  | 'b' => some 8
  | 't' => some 9
  | '\t' => some 9
  | 'n' => some 10
  | 'v' => some 11
  | 'f' => some 12
  | 'r' => some 13
  | 'e' => some 27
  | ' ' => some 32
  | '"' => some 34
  | '\\' => some 92
  | '/' => some 47
  | 'N' => some 0x85
  | '_' => some 0xA0
  | 'L' => some 0x2028
  | 'P' => some 0x2029
  | _ => none

/-- How many digits follow the letter of a numeric escape. -/
def escapeLength? : Char → Option Nat
  | 'x' => some 2
  | 'u' => some 4
  | 'U' => some 8
  | _ => none

/-- The hexadecimal code of a numeric escape, its letter being next. -/
def numericEscape (count : Nat) : Lexer Nat := do
  let digits := ((← get).rest.drop 1).take count
  if digits.length ≠ count || !digits.all isHex then fail
  skip (count + 1)
  let n := hexValue digits
  if 0x7FFFFFFF < n then throw .hugeCode
  if 0x110000 ≤ n then throw .badValue
  return n

/-- Whether digits are the code of the second half of a surrogate pair. -/
def isLowHalf (digits : Text) : Bool :=
  digits.all isHex && 0xDC00 ≤ hexValue digits && hexValue digits < 0xE000

/-- The character of a numeric escape. The two halves of a surrogate pair make one character. -/
def escapedChar (count : Nat) : Lexer Text := do
  let n ← numericEscape count
  let c ← get
  if 0xD800 ≤ n && n < 0xDC00 && c.peek == '\\' && c.peekAt 1 == 'u' then
    let digits := (c.rest.drop 2).take 4
    if isLowHalf digits then
      skip 6
      return [Char.ofNat (0x10000 + (n - 0xD800) * 1024 + (hexValue digits - 0xDC00))]
  if 0xD800 ≤ n && n < 0xE000 then return [Char.ofNat 0xFFFD]
  return [Char.ofNat n]

/-- Blank lines inside a quoted scalar, and the blanks in front of what follows them. No
document marker may stand at the beginning of a line. -/
def quotedBreaks : (fuel : Nat) → Lexer Text
  | 0 => return []
  | fuel + 1 => do
    if (← get).atAnyMarker then fail
    skipWhile fun c => c == ' ' || c == '\t'
    if isBreak (← peek) then
      let line ← takeBreak
      return line ++ (← quotedBreaks fuel)
    else return []

/-- Blanks and line ends inside a quoted scalar. -/
def quotedBlanks (fuel : Nat) : Lexer Text := do
  let blanks ← takeWhile fun c => c == ' ' || c == '\t'
  let c ← peek
  if c == endMark then fail
  else if isBreak c then
    let line ← takeBreak
    let more ← quotedBreaks fuel
    return (if line ≠ ['\n'] then line else if more.isEmpty then [' '] else []) ++ more
  else return blanks

/-- A character that means itself inside quotes of either kind. -/
def isQuotedChar (c : Char) : Bool :=
  !(c == '\'' || c == '"' || c == '\\' || isGapOrEnd c)

/-- What an escape stands for, from its backslash on. The end of a line stands for the blank lines
behind it. -/
def escape (fuel : Nat) : Lexer Text := do
  let e ← peekAt 1
  match escapeOf? e, escapeLength? e with
  | some n, _ =>
    skip 2
    return [Char.ofNat n]
  | none, some count =>
    skip 1
    escapedChar count
  | none, none =>
    if isBreak e then
      skip 1
      let _ ← takeBreak
      quotedBreaks fuel
    else fail

/-- What stands between the quotes, up to the closing one. -/
def quotedText (double : Bool) : (fuel : Nat) → Lexer Text
  | 0 => fail
  | fuel + 1 => do
    let run ← takeWhile isQuotedChar
    let c ← peek
    if !run.isEmpty then return run ++ (← quotedText double fuel)
    else if !double && c == '\'' then
      if (← peekAt 1) == '\'' then
        skip 2
        return '\'' :: (← quotedText double fuel)
      else
        skip 1
        return []
    else if double && c == '"' then
      skip 1
      return []
    else if !double && (c == '"' || c == '\\') || double && c == '\'' then
      skip 1
      return c :: (← quotedText double fuel)
    else if double && c == '\\' then
      let s ← escape fuel
      return s ++ (← quotedText double fuel)
    else
      let s ← quotedBlanks fuel
      return s ++ (← quotedText double fuel)

/-- A quoted scalar, from its opening quote on. -/
def quotedScalar (double : Bool) : Lexer Token := do
  skip 1
  return .scalar (← quotedText double (2 * (← get).rest.length + 2)) false

/-! ### Block scalars -/

/-- What becomes of the line ends behind a block scalar. -/
inductive Chomping
  | strip
  | clip
  | keep
deriving DecidableEq, Repr

/-- The chomping that an indicator asks for. -/
def chompingOf? : Char → Option Chomping
  | '+' => some .keep
  | '-' => some .strip
  | _ => none

/-- The chomping indicator, if it comes next. -/
def takeChomping : Lexer (Option Chomping) := do
  match chompingOf? (← peek) with
  | some chomping =>
    skip 1
    return some chomping
  | none => return none

/-- The indentation indicator, if it comes next. It is not zero. -/
def takeIndentation : Lexer (Option Nat) := do
  let c ← peek
  if !c.isDigit then return none
  if c == '0' then fail
  skip 1
  return some (c.toNat - 48)

/-- The header of a block scalar: chomping and indentation in either order. -/
def blockHeader : Lexer (Chomping × Option Nat) := do
  let early ← takeChomping
  let indentation ← takeIndentation
  let late ← if early.isNone && indentation.isSome then takeChomping else pure none
  if !isSpaceOrEnd (← peek) then fail
  return ((early.or late).getD .clip, indentation)

/-- Blank lines before the first line of a block scalar, and the widest indentation seen. -/
def leadingBreaks : (fuel : Nat) → (widest : Nat) → Lexer (Text × Nat)
  | 0, widest => return ([], widest)
  | fuel + 1, widest => do
    let c ← peek
    if c == ' ' then
      skip 1
      leadingBreaks fuel (max widest (← get).column)
    else if isBreak c then
      let line ← takeBreak
      let (more, widest) ← leadingBreaks fuel widest
      return (line ++ more, widest)
    else return ([], widest)

/-- Spaces up to a column. -/
def skipIndentation (indent : Nat) : Lexer Unit := do
  let c ← get
  let spaces := (c.rest.take (indent - c.column)).takeWhile (· == ' ')
  skip spaces.length

/-- Blank lines between the lines of a block scalar. -/
def blockBreaks (indent : Nat) : (fuel : Nat) → Lexer Text
  | 0 => return []
  | fuel + 1 => do
    skipIndentation indent
    if isBreak (← peek) then
      let line ← takeBreak
      return line ++ (← blockBreaks indent fuel)
    else return []

/-- The lines of a block scalar. `breaks` are the blank lines before the next one; the answer is
the text, the last line end, and the blank lines behind it. -/
def blockLines (folded : Bool) (indent : Nat) : (fuel : Nat) → (breaks : Text) →
    Lexer (Text × Text × Text)
  | 0, breaks => return ([], [], breaks)
  | fuel + 1, breaks => do
    let c ← get
    if c.column ≠ indent || c.peek == endMark then return ([], [], breaks)
    let startsText := !(c.peek == ' ' || c.peek == '\t')
    let line ← takeWhile (!isBreakOrEnd ·)
    let lineEnd ← takeBreak
    let more ← blockBreaks indent fuel
    let d ← get
    if d.column = indent && d.peek ≠ endMark then
      let joint :=
        if folded && lineEnd = ['\n'] && startsText && !(d.peek == ' ' || d.peek == '\t') then
          if more.isEmpty then [' '] else []
        else lineEnd
      let (text, last, tail) ← blockLines folded indent fuel more
      return (breaks ++ line ++ joint ++ text, last, tail)
    else return (breaks ++ line, lineEnd, more)

/-- The blank lines before the first line of a block scalar, and the column of its lines. An
indicator tells the column from `least` on; without one the first line does. -/
def blockStart (least fuel : Nat) : (indentation : Option Nat) → Lexer (Text × Nat)
  | some n => do return (← blockBreaks (least + n - 1) fuel, least + n - 1)
  | none => do
    let (breaks, widest) ← leadingBreaks fuel 0
    return (breaks, max least widest)

/-- What stands behind the header of a block scalar. -/
def blockBody (folded : Bool) (indent : Nat) (indentation : Option Nat) :
    Lexer (Text × Text × Text) := do
  let fuel := (← get).rest.length + 1
  let (breaks, indent) ← blockStart (max indent 1) fuel indentation
  blockLines folded indent fuel breaks

/-- The text of a block scalar, of which the line ends behind it may be a part. -/
def Chomping.text : Chomping → (text last tail : Text) → Text
  | strip, text, _, _ => text
  | clip, text, last, _ => text ++ last
  | keep, text, last, tail => text ++ last ++ tail

/-- A block scalar, from its indicator on. `indent` is the indentation of the enclosing
collection plus one. -/
def blockScalar (folded : Bool) (indent : Nat) : Lexer Token := do
  skip 1
  let (chomping, indentation) ← blockHeader
  skipLineEnd
  let (text, last, tail) ← blockBody folded indent indentation
  return .scalar (chomping.text text last tail) false

/-! ### Plain scalars -/

/-- Whether a plain scalar stops before the next character. In flow collections their brackets
and commas stop it too. -/
def stopsPlain (flow : Bool) (c : Cursor) : Bool :=
  let ch := c.peek
  isGapOrEnd ch ||
  (ch == ':' && (isGapOrEnd (c.peekAt 1) ||
    (flow && [',', '[', ']', '\x7b', '\x7d'].contains (c.peekAt 1)))) ||
  (flow && [',', '?', '[', ']', '\x7b', '\x7d'].contains ch)

/-- A run of characters of a plain scalar. -/
def plainRun (flow : Bool) : (fuel : Nat) → Lexer Text
  | 0 => return []
  | fuel + 1 => do
    let c ← get
    if stopsPlain flow c then return []
    skip 1
    return c.peek :: (← plainRun flow fuel)

/-- Blank lines inside a plain scalar, or nothing when a document marker ends it. -/
def plainBreaks : (fuel : Nat) → Lexer (Option Text)
  | 0 => return some []
  | fuel + 1 => do
    let c ← peek
    if c == ' ' then
      skip 1
      plainBreaks fuel
    else if isBreak c then
      let line ← takeBreak
      if (← get).atAnyMarker then return none
      return (← plainBreaks fuel).map (line ++ ·)
    else return some []

/-- What separates two runs of a plain scalar, empty when the scalar is over; and whether a line
end was passed. -/
def plainGap (fuel : Nat) : Lexer (Text × Bool) := do
  let spaces ← takeWhile (· == ' ')
  if isBreak (← peek) then
    let line ← takeBreak
    if (← get).atAnyMarker then return ([], true)
    match ← plainBreaks fuel with
    | none => return ([], true)
    | some more =>
      return ((if line ≠ ['\n'] then line else if more.isEmpty then [' '] else []) ++ more, true)
  else return (spaces, false)

/-- The runs of a plain scalar, and whether it ended behind a line end. `gap` is what separates
the next run from what was read before. -/
def plainText (flow : Bool) (indent : Nat) : (fuel : Nat) → (gap : Text) → (broken : Bool) →
    Lexer (Text × Bool)
  | 0, _, broken => return ([], broken)
  | fuel + 1, gap, broken => do
    if (← peek) == '#' then return ([], broken)
    let run ← plainRun flow (← get).rest.length
    if run.isEmpty then return ([], broken)
    let (next, crossed) ← plainGap fuel
    let c ← get
    if next.isEmpty || c.peek == '#' || (!flow && c.column < indent) then
      return (gap ++ run, crossed)
    else
      let (more, ended) ← plainText flow indent fuel next crossed
      return (gap ++ run ++ more, ended)

/-- A plain scalar, and whether it ended behind a line end. `indent` is the least column of its
further lines outside of flow collections. -/
def plainScalar (flow : Bool) (indent : Nat) : Lexer (Token × Bool) := do
  let (s, broken) ← plainText flow indent ((← get).rest.length + 1) [] false
  return (.scalar s true, broken)

end Lexer

end Yaml

end Scaffold
