import Scaffold.Yaml.Token.Scalar

/-!
# Tokens of a text

The row of tokens of a whole text.

## Simple keys

A key without a question mark shows itself only at the colon behind it. So a place where such a
key might begin is remembered, one per level of flow collections, and the token that opens the
key is put in there when the colon comes. The colon has to come on the same line and within
1024 characters. At the indentation of a block mapping nothing else than a key may begin, and
then its colon is required.
-/

namespace Scaffold

namespace Yaml

/-- A place where a key might have begun. -/
structure PossibleKey where
  /-- How many tokens there were before it. -/
  number : Nat
  required : Bool
  index : Nat
  line : Nat
  column : Nat
deriving Repr

/-- What is known between two tokens. -/
structure Layout where
  cursor : Cursor
  /-- The tokens so far, the last one first. -/
  tokens : List Token
  /-- How many flow collections are open. -/
  flow : Nat
  /-- One more than the column of the innermost block collection, zero outside of all. -/
  indent : Nat
  /-- The same for the collections around it. -/
  outer : List Nat
  /-- Whether a key may begin here. -/
  keyAllowed : Bool
  /-- The possible keys, by the flow level they are at. -/
  keys : List (Nat × PossibleKey)
deriving Repr

/-- The layout at the beginning of a text. -/
def Layout.start (s : Text) : Layout := ⟨.start s, [], 0, 0, [], true, []⟩

/-- Whether the colon behind a possible key can no longer come. -/
def Layout.isStale (l : Layout) (k : PossibleKey) : Bool :=
  k.line != l.cursor.line || 1024 < l.cursor.index - k.index

/-- The layout without the block collections that are indented more than a column, given as one more
than that column. Flow collections ignore indentation. -/
def Layout.closed (indent : Nat) (l : Layout) : Layout :=
  if l.flow = 0 then close l.indent l.outer l.tokens else l
where
  close : (current : Nat) → (outer : List Nat) → List Token → Layout
    | current, [], tokens => { l with indent := current, outer := [], tokens }
    | current, o :: outer, tokens =>
      if indent < current then close o outer (.blockEnd :: tokens)
      else { l with indent := current, outer := o :: outer, tokens }

/-! ### What begins at a place -/

/-- Characters that cannot begin a plain scalar by themselves. -/
def isIndicator (c : Char) : Bool := "-?:,[]\x7b\x7d#&*!|>'\"%@".toList.contains c || c.toNat == 96

/-- Whether a plain scalar begins here. A dash, question mark or colon may begin one when
something follows it at once. -/
def beginsPlain (flow : Bool) (c : Cursor) : Bool :=
  let ch := c.peek
  (!isGapOrEnd ch && !isIndicator ch) ||
  (!isGapOrEnd (c.peekAt 1) && (ch == '-' || (!flow && (ch == '?' || ch == ':'))))

/-- What can begin at a place. -/
inductive Beginning
  | textEnd
  | setting
  | marker (t : Token)
  | opening (t : Token)
  | closing (t : Token)
  | comma
  | entry
  | key
  | value
  | alias
  | anchor
  | tag
  | block (folded : Bool)
  | quoted (double : Bool)
  | plain
  | unknown
deriving DecidableEq, Repr

/-- What begins at a place, inside of a flow collection or outside of all. -/
def beginningAt (flow : Bool) (c : Cursor) : Beginning :=
  let ch := c.peek
  let gapBehind := isGapOrEnd (c.peekAt 1)
  if ch == endMark then .textEnd
  else if ch == '%' && c.column = 0 then .setting
  else if c.column = 0 && c.atMarker ['-', '-', '-'] then .marker .documentStart
  else if c.column = 0 && c.atMarker ['.', '.', '.'] then .marker .documentEnd
  else if ch == '[' then .opening .openBracket
  else if ch == '\x7b' then .opening .openBrace
  else if ch == ']' then .closing .closeBracket
  else if ch == '\x7d' then .closing .closeBrace
  else if ch == ',' then .comma
  else if ch == '-' && gapBehind then .entry
  else if ch == '?' && (flow || gapBehind) then .key
  else if ch == ':' && (flow || gapBehind) then .value
  else if ch == '*' then .alias
  else if ch == '&' then .anchor
  else if ch == '!' then .tag
  else if ch == '|' && !flow then .block false
  else if ch == '>' && !flow then .block true
  else if ch == '\'' then .quoted false
  else if ch == '"' then .quoted true
  else if beginsPlain flow c then .plain
  else .unknown

/-! ### Steps -/

/-- A step of building the layout. -/
abbrev LayoutStep := StateT Layout (Except Fault)

namespace LayoutStep

/-- The text is malformed. -/
def fail {α : Type} : LayoutStep α := throw .malformed

/-- Add a token. -/
def push (t : Token) : LayoutStep Unit := modify fun l => { l with tokens := t :: l.tokens }

/-- Add a token where there were `number` tokens. -/
def pushAt (number : Nat) (t : Token) : LayoutStep Unit := modify fun l =>
  let later := l.tokens.length - number
  { l with tokens := l.tokens.take later ++ t :: l.tokens.drop later }

/-- Run a reader of characters. -/
def lex {α : Type} (reader : Lexer α) : LayoutStep α := do
  let l ← get
  match reader.run l.cursor with
  | .ok (a, c) =>
    set { l with cursor := c }
    return a
  | .error e => throw e

/-- Allow or bar keys. -/
def allowKey (allowed : Bool) : LayoutStep Unit := modify fun l => { l with keyAllowed := allowed }

/-- Close the block collections that are indented more than a column, given as one more than
that column. -/
def closeBlocks (indent : Nat) : LayoutStep Unit := modify (Layout.closed indent)

/-- Open a block collection at a column if it is indented more than the innermost one. -/
def openBlock (column : Nat) (t : Token) (number : Nat) : LayoutStep Unit := do
  let l ← get
  if l.indent ≤ column then
    set { l with indent := column + 1, outer := l.indent :: l.outer }
    pushAt number t

/-- Give up the possible key at this level. A required one may not be given up. -/
def dropKey : LayoutStep Unit := do
  let l ← get
  match l.keys.lookup l.flow with
  | none => return
  | some k =>
    if k.required then fail
    set { l with keys := l.keys.filter (·.1 ≠ l.flow) }

/-- Remember that a key might begin here. -/
def saveKey : LayoutStep Unit := do
  let l ← get
  if l.keyAllowed then
    dropKey
    modify fun m =>
      { m with keys := (l.flow, ⟨l.tokens.length, l.flow == 0 && l.indent == l.cursor.column + 1,
          l.cursor.index, l.cursor.line, l.cursor.column⟩) :: m.keys }

/-- Give up the possible keys whose colon can no longer come. -/
def dropStaleKeys : LayoutStep Unit := do
  let l ← get
  if l.keys.any fun (_, k) => l.isStale k && k.required then fail
  set { l with keys := l.keys.filter fun (_, k) => !l.isStale k }

/-- Move to the next token: past spaces, comments and line ends. -/
def skipGap : (fuel : Nat) → LayoutStep Unit
  | 0 => return
  | fuel + 1 => do
    lex Lexer.skipRemark
    if isBreak (← lex Lexer.peek) then
      let _ ← lex Lexer.takeBreak
      if (← get).flow = 0 then allowKey true
      skipGap fuel

/-- A mark between documents, or a directive. -/
def boundary (reader : Lexer Token) : LayoutStep Unit := do
  closeBlocks 0
  dropKey
  allowKey false
  push (← lex reader)

/-- A bracket that opens a flow collection. -/
def openFlow (t : Token) : LayoutStep Unit := do
  saveKey
  modify fun l => { l with flow := l.flow + 1 }
  allowKey true
  lex (Lexer.skip 1)
  push t

/-- A bracket that closes a flow collection. -/
def closeFlow (t : Token) : LayoutStep Unit := do
  dropKey
  modify fun l => { l with flow := l.flow - 1 }
  allowKey false
  lex (Lexer.skip 1)
  push t

/-- A comma. -/
def comma : LayoutStep Unit := do
  allowKey true
  dropKey
  lex (Lexer.skip 1)
  push .comma

/-- An indicator that may open a block collection at its column: the dash of an entry, the
question mark of a key, or the colon of a value whose key does not show. -/
def blockIndicator (collection t : Token) (keyAfterwards : Bool) : LayoutStep Unit := do
  let l ← get
  if l.flow = 0 then
    if !l.keyAllowed then fail
    openBlock l.cursor.column collection l.tokens.length
  allowKey keyAfterwards
  dropKey
  lex (Lexer.skip 1)
  push t

/-- The colon of a value. -/
def value : LayoutStep Unit := do
  let l ← get
  match l.keys.lookup l.flow with
  | some k =>
    set { l with keys := l.keys.filter (·.1 ≠ l.flow) }
    pushAt k.number .key
    if l.flow = 0 then openBlock k.column .blockMapping k.number
    allowKey false
    lex (Lexer.skip 1)
    push .value
  | none => blockIndicator .blockMapping .value (l.flow == 0)

/-- A token that might begin a key, and behind which none may begin. -/
def keyCandidate (reader : Lexer Token) : LayoutStep Unit := do
  saveKey
  allowKey false
  push (← lex reader)

/-- A block scalar. A key may follow it. -/
def block (folded : Bool) : LayoutStep Unit := do
  allowKey true
  dropKey
  let l ← get
  push (← lex (Lexer.blockScalar folded l.indent))

/-- A plain scalar. A key may follow it if it ended behind a line end. -/
def plain : LayoutStep Unit := do
  saveKey
  let l ← get
  let (t, broken) ← lex (Lexer.plainScalar (l.flow != 0) l.indent)
  allowKey broken
  push t

/-- Come to the next token: past a byte order mark at the very beginning and what separates
tokens. -/
def arrive : LayoutStep Unit := do
  if (← get).cursor.index = 0 && (← lex Lexer.peek).toNat = 0xFEFF then lex (Lexer.skip 1)
  skipGap ((← get).cursor.rest.length + 1)

/-- The token of what begins here. -/
def token (flow : Bool) : Beginning → LayoutStep Unit
  | .textEnd => do
    closeBlocks 0
    dropKey
    push .streamEnd
  | .setting => boundary Lexer.setting
  | .marker t => boundary do
    Lexer.skip 3
    return t
  | .opening t => openFlow t
  | .closing t => closeFlow t
  | .comma => comma
  | .entry => blockIndicator .blockSequence .entry true
  | .key => blockIndicator .blockMapping .key (!flow)
  | .value => value
  | .alias => keyCandidate (Token.alias <$> Lexer.anchorName)
  | .anchor => keyCandidate (Token.anchor <$> Lexer.anchorName)
  | .tag => keyCandidate Lexer.tag
  | .block folded => block folded
  | .quoted double => keyCandidate (Lexer.quotedScalar double)
  | .plain => plain
  | .unknown => fail

/-- The token that begins here, behind the ends of the block collections that it is not in. Tells
what it began as. -/
def emit : LayoutStep Beginning := do
  dropStaleKeys
  closeBlocks ((← get).cursor.column + 1)
  let l ← get
  let beginning := beginningAt (l.flow != 0) l.cursor
  token (l.flow != 0) beginning
  return beginning

/-- The next token. -/
def step : LayoutStep Beginning := do
  arrive
  emit

/-- All tokens from here on. -/
def steps : (fuel : Nat) → LayoutStep Unit
  | 0 => fail
  | fuel + 1 => do
    if (← step) == .textEnd then return
    steps fuel

end LayoutStep

/-- Characters that a YAML text may contain. -/
def isAllowed (c : Char) : Bool :=
  let n := c.toNat
  n == 9 || n == 10 || n == 13 || (0x20 ≤ n && n ≤ 0x7E) || n == 0x85 || (0xA0 ≤ n && n ≤ 0xFFFD) ||
  0x10000 ≤ n

/-- The tokens of a text. -/
def tokens (s : Text) : Except Fault (List Token) := do
  if !s.all isAllowed then throw .malformed
  let ((), l) ← StateT.run (LayoutStep.steps (s.length + 2)) (.start s)
  return l.tokens.reverse

end Yaml

end Scaffold
