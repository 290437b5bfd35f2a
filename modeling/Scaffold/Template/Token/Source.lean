import Scaffold.Template.Token.Basic
import Scaffold.Template.Token.Literal
import Scaffold.Text.Identifier
import Scaffold.Text.Lines

/-!
# The tokens of a source

The source is read in turns: text up to the next tag, then the inside of the tag. A minus sign
at the inner edge of a tag takes away the blanks on its outer side. Inside a tag the closing mark
counts only when every bracket is closed. A raw section is text whatever tags it holds.

Main statement: a source without tags is one piece of text, with its line ends unified.
-/

namespace Scaffold

namespace Template

/-! ### Tags -/

/-- What a tag is about. -/
inductive TagKind
  | print
  | statement
  | comment
deriving DecidableEq, Repr

/-- The tag that the character behind a brace begins. -/
def TagKind.ofChar? (c : Char) : Option TagKind :=
  if c = '\x7b' then some .print
  else if c = '%' then some .statement
  else if c = '#' then some .comment
  else none

/-- The text before the first tag, the kind of the tag, and what follows its two characters. -/
def cutAtTag? : Text → Option (Text × TagKind × Text)
  | [] => none
  | [_] => none
  | c :: d :: rest =>
    match if c = '\x7b' then TagKind.ofChar? d else none with
    | some kind => some ([], kind, rest)
    | none => (cutAtTag? (d :: rest)).map fun (before, kind, after) => (c :: before, kind, after)

/-- A sign at the inner edge of a tag. -/
inductive Edge
  | plain
  | keep
  | strip
deriving DecidableEq, Repr

/-- The sign behind the opening of a tag, and the rest. -/
def Edge.read : Text → Edge × Text
  | '-' :: rest => (strip, rest)
  | '+' :: rest => (keep, rest)
  | s => (plain, s)

/-- The text before a tag, as its edge leaves it. -/
def Edge.trimmed (e : Edge) (s : Text) : Text :=
  match e with
  | strip => Text.trimEnd s
  | _ => s

/-- A token for text, unless it is empty. -/
def dataToken (s : Text) : List Token := if s.isEmpty then [] else [.data s]

/-- What follows the closing of a tag, if the text begins with one. -/
def closing? (mark : Char) (allowKeep : Bool) : Text → Option Text
  | '-' :: c :: '\x7d' :: rest => if c = mark then some (Text.trimStart rest) else none
  | '+' :: c :: '\x7d' :: rest => if c = mark && allowKeep then some rest else none
  | c :: '\x7d' :: rest => if c = mark then some rest else none
  | _ => none

/-- What follows a word with blanks allowed in front. -/
def afterWord? (word s : Text) : Option Text :=
  let s := Text.trimStart s
  if word.isPrefixOf s then some (s.drop word.length) else none

/-- What follows the rest of a tag that begins a raw section. -/
def rawBegin? (s : Text) : Option Text :=
  (afterWord? (Text.of "raw") s).bind fun rest => closing? '%' false (Text.trimStart rest)

/-- The edge of a tag that ends a raw section and what follows it. -/
def rawEnd? (s : Text) : Option (Edge × Text) :=
  let (edge, rest) := Edge.read s
  (afterWord? (Text.of "endraw") rest).bind fun rest =>
    (closing? '%' true (Text.trimStart rest)).map fun rest => (edge, rest)

/-- A raw section: its text as the edge of its end leaves it, and what follows it. -/
def cutAtRawEnd? : Text → Option (Text × Edge × Text)
  | [] => none
  | [_] => none
  | c :: d :: rest =>
    match if c = '\x7b' && d = '%' then rawEnd? rest else none with
    | some (edge, after) => some ([], edge, after)
    | none => (cutAtRawEnd? (d :: rest)).map fun (before, edge, after) => (c :: before, edge, after)

/-- What follows a comment. A comment that begins at the very end of the source is none. -/
def afterComment? (s : Text) : Option Text :=
  if s.isEmpty then some []
  else (Text.cutAt? ['#', '\x7d'] s).map fun (comment, rest) =>
    if comment.getLast? = some '-' then Text.trimStart rest else rest

/-! ### The inside of a tag -/

/-- A character of a name or of something that is mistaken for one. -/
def isNameChar (c : Char) : Bool := Text.isWord c || Text.isNameContinue c

/-- The token that the inside of a tag begins with, and the rest. A number right behind a dot is
a whole number. -/
def readToken? (afterDot : Bool) (s : Text) : Option (Token × Text) :=
  match if afterDot then none else Literal.readFloat? s with
  | some (x, rest) => some (.float x, rest)
  | none => match Literal.readInteger? s with
    | some (n, rest) => some (.integer n, rest)
    | none =>
      let word := s.takeWhile isNameChar
      if !word.isEmpty then
        if Text.isName word then some (.name word, s.drop word.length) else none
      else match Literal.readString? s with
        | some (written, rest) => (Literal.unescape? written).map fun t => (.string t, rest)
        | none => (Sign.read? s).map fun (sign, rest) => (.sign sign, rest)

/-- The brackets that are open after a token; nothing when it closes the wrong one. -/
def brackets? (expected : List Sign) : Token → Option (List Sign)
  | .sign s =>
    match s.closing? with
    | some close => some (close :: expected)
    | none =>
      if s.isClosing then
        match expected with
        | close :: outer => if close = s then some outer else none
        | [] => none
      else some expected
  | _ => some expected

/-- The tokens inside a tag and what follows its closing. A tag that is still open at the end of
the source has no closing token. -/
def insideTag? (mark : Char) (allowKeep : Bool) (close : Token) :
    (fuel : Nat) → (expected : List Sign) → (afterDot : Bool) → Text → Option (List Token × Text)
  | 0, _, _, _ => none
  | _, _, _, [] => some ([], [])
  | fuel + 1, expected, afterDot, c :: rest =>
    match if expected.isEmpty then closing? mark allowKeep (c :: rest) else none with
    | some after => some ([close], after)
    | none =>
      if Text.isBlank c then insideTag? mark allowKeep close fuel expected false rest
      else match readToken? afterDot (c :: rest) with
        | none => none
        | some (token, after) => match brackets? expected token with
          | none => none
          | some expected =>
            let dotted := match token with
              | .sign .dot => true
              | _ => false
            (insideTag? mark allowKeep close fuel expected dotted after).map
              fun (tokens, after) => (token :: tokens, after)

/-! ### The whole source -/

/-- The tokens of a source whose line ends are unified. -/
def tokensFrom : (fuel : Nat) → Text → Option (List Token)
  | 0, _ => none
  | fuel + 1, s =>
    match cutAtTag? s with
    | none => some (dataToken s)
    | some (before, kind, rest) =>
      let (edge, rest) := Edge.read rest
      let data := dataToken (edge.trimmed before)
      let go (opening : List Token) (after : Text) : Option (List Token) :=
        (tokensFrom fuel after).map fun tokens => data ++ opening ++ tokens
      match kind with
      | .comment => (afterComment? rest).bind fun after => go [] after
      | .print => (insideTag? '\x7d' false .printEnd (rest.length + 1) [] false rest).bind
          fun (tokens, after) => go (.printBegin :: tokens) after
      | .statement =>
        match rawBegin? rest with
        | some [] => go [] []
        | some section_ => (cutAtRawEnd? section_).bind fun (raw, edge, after) =>
            go (dataToken (edge.trimmed raw)) after
        | none => (insideTag? '%' true .tagEnd (rest.length + 1) [] false rest).bind
            fun (tokens, after) => go (.tagBegin :: tokens) after

/-- The tokens of a source. -/
def tokens? (source : Text) : Option (List Token) :=
  let s := Text.unifyNewlines source
  tokensFrom (s.length + 1) s

end Template

end Scaffold
