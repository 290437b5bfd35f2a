import Scaffold.Pattern.Syntax
import Scaffold.Pattern.Token
import Scaffold.Text.CharacterName
import Scaffold.Text.Identifier
import Scaffold.Text.Integer

/-!
# Reading patterns

From the written form of a pattern to its tree.

Groups are numbered by their opening bracket. A reference needs a group that is already
closed; inside a look behind it also needs one that was closed before the look began, because
only then is its width known there. A condition may name a group that comes later, which is
checked at the end. Modes for the whole pattern may be switched only at its very beginning.

## Implementation notes

The reader threads one record through: the tokens that are left and what is known about the
groups so far. Its recursion runs on a number that starts above the number of tokens, each
call taking at least one token or ending.
-/

namespace Scaffold

namespace Pattern

/-- Why a pattern cannot be used. -/
inductive Fault
  /-- The pattern is not well formed. -/
  | malformed
  /-- A quantifier asks for more turns than can be counted. -/
  | countTooLarge
  /-- A number has more digits than a numeral may have. -/
  | numeralTooLong
  /-- The ASCII and the Unicode mode are both switched on for the whole pattern. -/
  | modesClash
deriving DecidableEq, Repr

/-- What is left to read and what was learned so far. -/
structure Reading where
  tokens : List Token
  /-- Modes of the whole pattern. -/
  modes : Modes
  /-- The number the next group gets. -/
  nextGroup : Nat
  names : List (Text × Nat)
  /-- The groups that are closed, with their widths. -/
  closed : List (Nat × Width)
  /-- Groups by whose number a condition asked. -/
  asked : List Nat
  /-- Inside a look behind, the number of the first group that was not open before it. -/
  lookLimit : Option Nat

/-- A step of reading. -/
abbrev Reader := StateT Reading (Except Fault)

namespace Reader

/-- The next token, left where it is. -/
def peek : Reader (Option Token) := return (← get).tokens.head?

/-- Move past the next token. -/
def skip : Reader Unit := modify fun r => { r with tokens := r.tokens.tail }

/-- Take the next token if it is the given character. -/
def accept (c : Char) : Reader Bool := do
  if (← peek) = some (.plain c) then skip; return true else return false

/-- The pattern is malformed. -/
def fail {α : Type} : Reader α := throw .malformed

/-- The given character has to come next. -/
def expect (c : Char) : Reader Unit := do
  unless ← accept c do fail

/-- The plain characters that come next and pass the test, at most `limit` of them. -/
def takeWhile (limit : Nat) (test : Char → Bool) : Reader (Text) := do
  let r ← get
  let taken := (r.tokens.take limit).takeWhile fun
    | .plain c => test c
    | .escaped _ => false
  set { r with tokens := r.tokens.drop taken.length }
  return taken.flatMap Token.text

/-- What is written up to a closing character, which is taken as well. It may not be empty. -/
def takeUntil (close : Char) : Reader (Text) := do
  let r ← get
  let taken := r.tokens.takeWhile (· ≠ .plain close)
  if taken.isEmpty || taken.length = r.tokens.length then fail
  set { r with tokens := r.tokens.drop (taken.length + 1) }
  return taken.flatMap Token.text

end Reader

open Reader

/-! ### Escapes -/

/-- A hexadecimal digit. -/
def isHexDigit (c : Char) : Bool :=
  c.isDigit || ('a' ≤ c && c ≤ 'f') || ('A' ≤ c && c ≤ 'F')

/-- An octal digit. -/
def isOctalDigit (c : Char) : Bool := '0' ≤ c && c ≤ '7'

/-- The number that digits of a base write, `0` for anything else. -/
def numeral (base : Nat) (digits : Text) : Nat :=
  digits.foldl (fun n c => base * n + (Text.digitValue? c).getD 0) 0

/-- A code point written with exactly `count` hexadecimal digits. -/
def hexEscape (count : Nat) : Reader Nat := do
  let digits ← takeWhile count isHexDigit
  if digits.length = count then return numeral 16 digits else fail

/-- The escapes that mean the same everywhere: control characters, code points, names. -/
def commonEscape? : Char → Option (Reader Nat)
  | 'a' => some (pure 7)
  | 'f' => some (pure 12)
  | 'n' => some (pure 10)
  | 'r' => some (pure 13)
  | 't' => some (pure 9)
  | 'v' => some (pure 11)
  | '\\' => some (pure 92)
  | 'x' => some (hexEscape 2)
  | 'u' => some (hexEscape 4)
  | 'U' => some do
    let n ← hexEscape 8
    if n < 0x110000 then return n else fail
  | 'N' => some do
    expect '\x7b'
    match Text.named? (String.ofList (← takeUntil '\x7d')) with
    | some n => return n
    | none => fail
  | _ => none

/-- The classes of characters. -/
def categoryEscape? : Char → Option SetItem
  | 'd' => some (.category .digit false)
  | 'D' => some (.category .digit true)
  | 's' => some (.category .blank false)
  | 'S' => some (.category .blank true)
  | 'w' => some (.category .word false)
  | 'W' => some (.category .word true)
  | _ => none

/-- The places. -/
def anchorEscape? : Char → Option Anchor
  | 'A' => some .textStart
  | 'Z' => some .textEnd
  | 'b' => some .wordEdge
  | 'B' => some .notWordEdge
  | _ => none

/-- An escaped character that means itself: anything but an ASCII letter or digit. -/
def selfEscape (c : Char) : Reader Nat :=
  if c.isAlphanum then fail else return c.toNat

/-- An escape inside a set. Numbers are octal there, and `\b` is the backspace. -/
def setEscape (c : Char) : Reader SetItem := do
  match categoryEscape? c with
  | some item => return item
  | none =>
    if c = 'b' then return .code 8
    else if isOctalDigit c then
      let n := numeral 8 (c :: (← takeWhile 2 isOctalDigit))
      if n ≤ 255 then return .code n else fail
    else match commonEscape? c with
      | some code => return .code (← code)
      | none => return .code (← selfEscape c)

/-- The group may be referred to from here. -/
def checkClosed (number : Nat) : Reader Width := do
  let r ← get
  match r.closed.lookup number with
  | none => fail
  | some w =>
    match r.lookLimit with
    | some limit => if number < limit then return w else fail
    | none => return w

/-- A number behind a backslash: octal with a leading zero or with three octal digits, and the
number of a group otherwise. -/
def numberEscape (c : Char) : Reader Node := do
  if c = '0' then return .code (numeral 8 (← takeWhile 2 isOctalDigit))
  let more ← takeWhile 1 Char.isDigit
  let octal ← if isOctalDigit c && !more.isEmpty && more.all isOctalDigit then
    takeWhile 1 isOctalDigit else pure []
  if !octal.isEmpty then
    let n := numeral 8 (c :: more ++ octal)
    if n ≤ 255 then return .code n else fail
  else
    let number := numeral 10 (c :: more)
    return .same number (← checkClosed number)

/-- An escape outside of sets. -/
def escape (c : Char) : Reader Node := do
  match categoryEscape? c, anchorEscape? c with
  | some item, _ => return .set false [item]
  | none, some place => return .anchor place
  | none, none =>
    if c.isDigit then numberEscape c
    else match commonEscape? c with
      | some code => return .code (← code)
      | none => return .code (← selfEscape c)

/-! ### Sets -/

/-- One member of a set, or one end of a range. -/
def setMember : Token → Reader SetItem
  | .plain c => return .code c.toNat
  | .escaped c => setEscape c

/-- The members of a set up to its closing bracket. A closing bracket right at the beginning is
a member. -/
def setItems : (fuel : Nat) → List SetItem → Reader (List SetItem)
  | 0, _ => fail
  | fuel + 1, items => do
    match ← peek with
    | none => fail
    | some t =>
      skip
      if t = .plain ']' && !items.isEmpty then return items
      let low ← setMember t
      if ← accept '-' then
        match ← peek with
        | none => fail
        | some u =>
          skip
          if u = .plain ']' then return items ++ [low, .code 45]
          match low, ← setMember u with
          | .code a, .code b =>
            if b < a then fail else setItems fuel (items ++ [.range a b])
          | _, _ => fail
      else setItems fuel (items ++ [low])

/-! ### Modes -/

/-- The mode a letter stands for. -/
def modeOf? : Char → Option Modes
  | 'i' => some { Modes.none with ignoreCase := true }
  | 'm' => some { Modes.none with multiline := true }
  | 's' => some { Modes.none with dotAll := true }
  | 'x' => some { Modes.none with spaced := true }
  | 'a' => some { Modes.none with ascii := true }
  | 'u' => some { Modes.none with unicode := true }
  | 't' => some { Modes.none with plain := true }
  | _ => none

/-- Letters of modes up to a character that is none. There has to be at least one letter. -/
def modeLetters : (fuel : Nat) → Modes → Reader (Modes × Char)
  | 0, _ => fail
  | fuel + 1, modes => do
    match ← peek with
    | some (.plain c) =>
      skip
      match modeOf? c with
      | none => fail
      | some m =>
        let modes := modes.union m
        if modes.ascii && modes.unicode then fail
        match ← peek with
        | some (.plain d) =>
          if d = ')' || d = '-' || d = ':' then
            skip
            return (modes, d)
          else modeLetters fuel modes
        | _ => fail
    | _ => fail

/-- What an inline switch of modes does. -/
inductive Switch
  /-- Switches modes on for the whole pattern. -/
  | whole (modes : Modes)
  /-- Switches modes for the group it opens. -/
  | group (added dropped : Modes)

/-- A switch of modes, from its first letter or hyphen on. -/
def modeSwitch (fuel : Nat) : Reader Switch := do
  let (added, stop) ← if ← accept '-' then pure (Modes.none, '-') else modeLetters fuel .none
  if stop = ')' then return .whole added
  if added.plain then fail
  if stop = ':' then return .group added .none
  let (dropped, stop) ← modeLetters fuel .none
  if stop ≠ ':' || dropped.plain || dropped.ascii || dropped.unicode then fail
  if added.without dropped = added then return .group added dropped else fail

/-! ### Quantifiers -/

/-- Quantifiers count up to here. -/
def countLimit : Nat := 4294967295

/-- The longest numeral that is read as a number. -/
def numeralLimit : Nat := 4300

/-- A bound of a quantifier. -/
def countOf (digits : Text) : Reader (Option Nat) := do
  if digits.isEmpty then return none
  if numeralLimit < digits.length then throw .numeralTooLong
  let n := numeral 10 digits
  if countLimit ≤ n then throw .countTooLarge else return some n

/-- The bounds in braces, or nothing when the brace stands for itself. -/
def braces : Reader (Option (Nat × Option Nat)) := do
  let here ← get
  let low ← takeWhile here.tokens.length Char.isDigit
  let comma ← accept ','
  let high ← if comma then takeWhile here.tokens.length Char.isDigit else pure low
  if here.tokens.head? ≠ some (.plain '\x7d') && (← accept '\x7d') then
    let least ← countOf low
    let most ← countOf high
    if most.any (· < least.getD 0) then fail
    return some (least.getD 0, most)
  else
    set here
    return none

/-- A part of a sequence. What a group encloses can be repeated whatever it is. -/
structure Part where
  node : Node
  grouped : Bool

/-- Whether a quantifier may follow. -/
def Part.isRepeatable (p : Part) : Bool :=
  p.grouped || match p.node with
    | .anchor _ | .times .. => false
    | _ => true

/-- The last part, repeated. -/
def quantify (least : Nat) (most : Option Nat) : List Part → Reader (List Part)
  | [] => fail
  | last :: before => do
    unless last.isRepeatable do fail
    let appetite ←
      if ← accept '?' then pure Appetite.lazy
      else if ← accept '+' then pure Appetite.possessive
      else pure Appetite.greedy
    return ⟨.times least most appetite last.node, false⟩ :: before

/-- The parts of a sequence, the last one first, as one pattern. -/
def sequenceOf (parts : List Part) : Node :=
  parts.foldl (fun rest part => match rest with
    | .empty => part.node
    | _ => .seq part.node rest) .empty

/-! ### Groups -/

/-- The name of a group. -/
def groupName (close : Char) : Reader (Text) := do
  let name ← takeUntil close
  if Text.isName name then return name else fail

/-- Open a group. -/
def openGroup (name : Option Text) : Reader Nat := do
  let r ← get
  match name with
  | none => set { r with nextGroup := r.nextGroup + 1 }
  | some s =>
    if (r.names.lookup s).isSome then fail
    set { r with nextGroup := r.nextGroup + 1, names := (s, r.nextGroup) :: r.names }
  return r.nextGroup

/-- Close a group. -/
def closeGroup (number : Nat) (body : Node) : Reader Node := do
  modify fun r => { r with closed := (number, body.width) :: r.closed }
  return .group number body

/-- The group a condition asks for, by name or by number. -/
def conditionGroup : Reader Nat := do
  let written ← takeUntil ')'
  let r ← get
  if Text.isName written then
    match r.names.lookup written with
    | some number => return number
    | none => fail
  else match Text.readInteger? written with
    | some (.ofNat (n + 1)) =>
      set { r with asked := (n + 1) :: r.asked }
      return n + 1
    | _ => fail

/-- What opens behind a bracket. -/
inductive Opening
  | capture (name : Option Text)
  | plainGroup
  | atomicGroup
  | look (behind negated : Bool)
  | condition
  | modes (switch : Switch)
  | reference (name : Text)
  | comment

/-- Read what opens, the bracket being taken already. -/
def opening (fuel : Nat) : Reader Opening := do
  if !(← accept '?') then return .capture none
  match ← peek with
  | some (.plain c) =>
    if c = '-' || (modeOf? c).isSome then return .modes (← modeSwitch fuel)
    skip
    match c with
    | 'P' =>
      if ← accept '<' then return .capture (some (← groupName '>'))
      else if ← accept '=' then return .reference (← groupName ')')
      else fail
    | ':' => return .plainGroup
    | '#' => return .comment
    | '=' => return .look false false
    | '!' => return .look false true
    | '<' =>
      if ← accept '=' then return .look true false
      else if ← accept '!' then return .look true true
      else fail
    | '(' => return .condition
    | '>' => return .atomicGroup
    | _ => fail
  | _ => fail

/-- Blanks that a spaced pattern leaves out. -/
def isSpacing (c : Char) : Bool := c == ' ' || (9 ≤ c.toNat && c.toNat ≤ 13)

/-- Leave out a comment of a spaced pattern, up to the end of the line. -/
def skipLine : Reader Unit :=
  modify fun r => { r with tokens := (r.tokens.dropWhile (· ≠ .plain '\n')).drop 1 }

/-- Leave out a bracketed comment. -/
def skipComment : Reader Unit := do
  let r ← get
  let rest := r.tokens.dropWhile (· ≠ .plain ')')
  if rest.isEmpty then fail
  set { r with tokens := rest.drop 1 }

mutual

/-- Alternatives, up to a closing bracket or the end. At the top the first one may begin with
modes for the whole pattern. -/
def alternatives : (fuel : Nat) → (spaced top first : Bool) → Reader Node
  | 0, _, _, _ => fail
  | fuel + 1, spaced, top, first => do
    let node ← sequence fuel spaced (top && first) []
    if ← accept '|' then
      let r ← get
      let spaced := if top then r.modes.spaced else spaced
      return .either node (← alternatives fuel spaced top false)
    else return node

/-- A sequence, up to a bar, a closing bracket or the end. `parts` are what was read of it, the
last one first. -/
def sequence : (fuel : Nat) → (spaced first : Bool) → List Part → Reader Node
  | 0, _, _, _ => fail
  | fuel + 1, spaced, first, parts => do
    match ← peek with
    | none => return sequenceOf parts
    | some (.escaped c) =>
      skip
      let node ← escape c
      sequence fuel spaced first (⟨node, false⟩ :: parts)
    | some (.plain c) =>
      if c = '|' || c = ')' then return sequenceOf parts
      skip
      if spaced && isSpacing c then sequence fuel spaced first parts
      else if spaced && c = '#' then
        skipLine
        sequence fuel spaced first parts
      else if c = '[' then
        let negated ← accept '^'
        let items ← setItems fuel []
        sequence fuel spaced first (⟨.set negated items, false⟩ :: parts)
      else if c = '?' then sequence fuel spaced first (← quantify 0 (some 1) parts)
      else if c = '*' then sequence fuel spaced first (← quantify 0 none parts)
      else if c = '+' then sequence fuel spaced first (← quantify 1 none parts)
      else if c = '\x7b' then
        match ← braces with
        | some (least, most) => sequence fuel spaced first (← quantify least most parts)
        | none => sequence fuel spaced first (⟨.code c.toNat, false⟩ :: parts)
      else if c = '.' then sequence fuel spaced first (⟨.any, false⟩ :: parts)
      else if c = '^' then sequence fuel spaced first (⟨.anchor .lineStart, false⟩ :: parts)
      else if c = '$' then sequence fuel spaced first (⟨.anchor .lineEnd, false⟩ :: parts)
      else if c = '(' then
        match ← opening fuel with
        | .comment =>
          skipComment
          sequence fuel spaced first parts
        | .modes (.whole m) =>
          if !first || !parts.isEmpty then fail
          modify fun r => { r with modes := r.modes.union m }
          let spaced := (← get).modes.spaced
          sequence fuel spaced first parts
        | form =>
          let node ← bracketed fuel spaced form
          sequence fuel spaced first (⟨node, true⟩ :: parts)
      else sequence fuel spaced first (⟨.code c.toNat, false⟩ :: parts)

/-- The rest of a bracket, by what opened. -/
def bracketed : (fuel : Nat) → (spaced : Bool) → Opening → Reader Node
  | 0, _, _ => fail
  | fuel + 1, spaced, form => do
    match form with
    | .capture name =>
      let number ← openGroup name
      let body ← alternatives fuel spaced false false
      expect ')'
      closeGroup number body
    | .plainGroup =>
      let body ← alternatives fuel spaced false false
      expect ')'
      return body
    | .atomicGroup =>
      let body ← alternatives fuel spaced false false
      expect ')'
      return .atomic body
    | .modes (.group added dropped) =>
      let spaced := (spaced || added.spaced) && !dropped.spaced
      let body ← alternatives fuel spaced false false
      expect ')'
      return .modes added dropped body
    | .look false negated =>
      let body ← alternatives fuel spaced false false
      expect ')'
      return .ahead negated body
    | .look true negated =>
      let outer := (← get).lookLimit
      modify fun r => { r with lookLimit := some (outer.getD r.nextGroup) }
      let body ← alternatives fuel spaced false false
      modify fun r => { r with lookLimit := outer }
      expect ')'
      return .behind negated body.width body
    | .condition =>
      let number ← conditionGroup
      if (← get).lookLimit.isSome then
        let _ ← checkClosed number
      let present ← sequence fuel spaced false []
      if ← accept '|' then
        let absent ← sequence fuel spaced false []
        expect ')'
        return .branch number present absent
      else
        expect ')'
        return .branch number present .empty
    | .reference name =>
      match (← get).names.lookup name with
      | none => fail
      | some number => return .same number (← checkClosed number)
    | .modes (.whole _) | .comment => fail

end

end Pattern

open Pattern in
/-- The pattern with the given written form. -/
def Pattern.compile (source : Text) : Except Fault Pattern := do
  match Token.scan? source with
  | none => .error .malformed
  | some tokens =>
    let start : Reading := ⟨tokens, .none, 1, [], [], [], none⟩
    let (root, r) ← (alternatives (4 * tokens.length + 4) false true true).run start
    if r.modes.ascii && r.modes.unicode then .error .modesClash
    else if !r.tokens.isEmpty || r.asked.any (r.nextGroup ≤ ·) || !root.isSound r.modes then
      .error .malformed
    else .ok ⟨source, r.modes, root⟩

end Scaffold
