import Scaffold.Template.Item.Given
import Scaffold.Template.Item.Sequence
import Scaffold.Text.Case
import Scaffold.Text.Identifier
import Scaffold.Text.Lines
import Scaffold.Text.Printable
import Scaffold.Text.Search
import Scaffold.Text.Utf8

/-!
# Members of texts

What a template can call on a text. A safe text answers with safe texts, and escapes the texts
it is given.
-/

namespace Scaffold

namespace Template

namespace Item

namespace TextMethod

/-- The names of the members. -/
def names : List String :=
  ["capitalize", "casefold", "center", "count", "encode", "endswith", "expandtabs", "find",
    "format", "format_map", "index", "isalnum", "isalpha", "isascii", "isdecimal", "isdigit",
    "isidentifier", "islower", "isnumeric", "isprintable", "isspace", "istitle", "isupper",
    "join", "ljust", "lower", "lstrip", "maketrans", "partition", "removeprefix", "removesuffix",
    "replace", "rfind", "rindex", "rjust", "rpartition", "rsplit", "rstrip", "split",
    "splitlines", "startswith", "strip", "swapcase", "title", "translate", "upper", "zfill"]

/-! ### What a text is like -/

/-- Whether a text has characters and all of them pass a test. -/
def allOf (test : Char → Bool) (s : Text) : Bool := !s.isEmpty && s.all test

/-- Whether a text has letters with case and none of them passes a test. -/
def noneOf (test : Char → Bool) (s : Text) : Bool :=
  s.any (fun c => Text.isSmall c || Text.isCapital c) && !s.any test

/-- Whether every word begins with a capital and goes on with small letters. -/
def isTitle : (afterCased seen : Bool) → Text → Bool
  | _, seen, [] => seen
  | afterCased, seen, c :: s =>
    if Text.isCapital c then !afterCased && isTitle true true s
    else if Text.isSmall c then afterCased && isTitle true true s
    else isTitle false seen s

/-- The answer to a question about a text. -/
def question? (name : Text) (s : Text) : Option Bool :=
  let is (word : String) : Bool := name = Text.of word
  if is "isalnum" then some (allOf Text.isLetterOrNumeral s)
  else if is "isalpha" then some (allOf Text.isLetter s)
  else if is "isascii" then some (s.all fun c => c.toNat < 128)
  else if is "isdecimal" then some (allOf Text.isDecimal s)
  else if is "isdigit" then some (allOf Text.isDigitLike s)
  else if is "isidentifier" then some (Text.isName s)
  else if is "islower" then some (noneOf Text.isCapital s)
  else if is "isnumeric" then some (allOf Text.isNumeral s)
  else if is "isprintable" then some (s.all Text.isPrintable)
  else if is "isspace" then some (allOf Text.isBlank s)
  else if is "istitle" then some (isTitle false false s)
  else if is "isupper" then some (noneOf Text.isSmall s)
  else none

/-- A text in other case. -/
def recased? (name : Text) (s : Text) : Option Text :=
  let is (word : String) : Bool := name = Text.of word
  if is "capitalize" then some (Text.capitalize s)
  else if is "casefold" then
    some (Text.lower (s.flatMap fun c => if c = 'ß' then ['s', 's'] else [c]))
  else if is "lower" then some (Text.lower s)
  else if is "swapcase" then some (Text.swapCase s)
  else if is "title" then some (Text.titleWords s)
  else if is "upper" then some (Text.upper s)
  else none

/-! ### Arguments -/

/-- A text that is given. -/
def textOf (safe : Bool) : Item → Except Fault Text
  | text given s => .ok (if safe && !given then escaped s else s)
  | undefined _ => .error .unfit
  | _ => .error .unfit

/-- A whole number that is given. -/
def wholeOf (item : Item) : Except Fault Int :=
  match item.integer? with
  | some n => .ok n
  | none => .error .unfit

/-- A single character that is given. -/
def fillerOf : Item → Except Fault Char
  | text _ [c] => .ok c
  | _ => .error .unfit

/-- The part of a text that a search is for: from a start to an end. -/
def window (s : Text) (start stop : Item) : Except Fault (Nat × Text) := do
  let bound (item : Item) (absent : Int) : Except Fault Nat := do
    match item with
    | null => return absent.toNat
    | item => return (boundOf s.length 0 s.length (← wholeOf item)).toNat
  let first ← bound start 0
  let last ← bound stop s.length
  return (first, (s.take last).drop first)

/-- The characters that are stripped. -/
def stripTest : Item → Except Fault (Char → Bool)
  | null => .ok Text.isBlank
  | text _ cs => .ok fun c => cs.contains c
  | _ => .error .unfit

/-- Texts of which one is looked for at an end. -/
def endings : Item → Except Fault (List Text)
  | text _ s => .ok [s]
  | tuple _ items => items.mapM (textOf false)
  | _ => .error .unfit

/-- A text with tabs replaced by blanks up to the next stop. -/
def expandTabs (stop column : Nat) : Text → Text
  | [] => []
  | c :: s =>
    if c = '\t' then
      let count := if stop = 0 then 0 else stop - column % stop
      List.replicate count ' ' ++ expandTabs stop (column + count) s
    else if c = '\n' || c = '\r' then c :: expandTabs stop 0 s
    else c :: expandTabs stop (column + 1) s

/-- A text with zeros behind its sign until it is as long as the width. -/
def zeroFilled (width : Int) (s : Text) : Text :=
  let missing := (width - s.length).toNat
  match s with
  | '+' :: rest => '+' :: List.replicate missing '0' ++ rest
  | '-' :: rest => '-' :: List.replicate missing '0' ++ rest
  | s => List.replicate missing '0' ++ s

/-! ### Members -/

/-- Texts in a new list. -/
def listOf (safe : Bool) (parts : List Text) : Work Item := newList (parts.map (text safe ·))

/-- Three parts around an occurrence. -/
def parted (safe : Bool) (a b c : Text) : Item :=
  tuple false [text safe a, text safe b, text safe c]

/-- Call a member that searches or counts. -/
def search? (name : Text) (s : Text) (g : Given) : Option (Except Fault Item) :=
  let is (word : String) : Bool := name = Text.of word
  let find (last : Bool) (absent : Except Fault Item) : Except Fault Item := do
    match ← g.onlyByPosition [("sub", none), ("start", some null), ("end", some null)] with
    | [part, start, stop] =>
      let part ← textOf false part
      let (first, within) ← window s start stop
      let found := if last then Text.lastIndexOf? part within else Text.indexOf? part within
      match found with
      | some n => return nat (first + n)
      | none => absent
    | _ => throw .unfit
  let atEnd (test : Text → Text → Bool) : Except Fault Item := do
    match ← g.onlyByPosition [("part", none), ("start", some null), ("end", some null)] with
    | [part, start, stop] =>
      let (_, within) ← window s start stop
      return bool ((← endings part).any (test within))
    | _ => throw .unfit
  if is "find" then some (find false (.ok (int (-1))))
  else if is "rfind" then some (find true (.ok (int (-1))))
  else if is "index" then some (find false (.error .badValue))
  else if is "rindex" then some (find true (.error .badValue))
  else if is "startswith" then some (atEnd Text.startsWith)
  else if is "endswith" then some (atEnd Text.endsWith)
  else if is "count" then some do
    match ← g.onlyByPosition [("sub", none), ("start", some null), ("end", some null)] with
    | [part, start, stop] =>
      let (_, within) ← window s start stop
      return nat (Text.countOf (← textOf false part) within)
    | _ => throw .unfit
  else none

/-- Call a member that answers with another text. -/
def edited? (safe : Bool) (name : Text) (s : Text) (g : Given) : Option (Except Fault Text) :=
  let is (word : String) : Bool := name = Text.of word
  let strip (atStart atEnd : Bool) : Except Fault Text := do
    let test ← stripTest ((← g.onlyByPosition [("chars", some null)]).headD null)
    let t := if atStart then Text.dropStart test s else s
    return if atEnd then Text.dropEnd test t else t
  let align (f : Int → Char → Text → Text) : Except Fault Text := do
    match ← g.onlyByPosition [("width", none), ("fillchar", some (plain [' ']))] with
    | [width, filler] => return f (← wholeOf width) (← fillerOf filler) s
    | _ => throw .unfit
  if is "strip" then some (strip true true)
  else if is "lstrip" then some (strip true false)
  else if is "rstrip" then some (strip false true)
  else if is "center" then some (align Text.centered)
  else if is "ljust" then some (align Text.leftAligned)
  else if is "rjust" then some (align Text.rightAligned)
  else if is "zfill" then some do
    match ← g.onlyByPosition [("width", none)] with
    | [width] => return zeroFilled (← wholeOf width) s
    | _ => throw .unfit
  else if is "expandtabs" then some do
    match ← g.forParameters [("tabsize", some (nat 8))] with
    | [stop] => return expandTabs (← wholeOf stop).toNat 0 s
    | _ => throw .unfit
  else if is "removeprefix" then some do
    match ← g.onlyByPosition [("part", none)] with
    | [part] =>
      let part ← textOf false part
      return if Text.startsWith s part then s.drop part.length else s
    | _ => throw .unfit
  else if is "removesuffix" then some do
    match ← g.onlyByPosition [("part", none)] with
    | [part] =>
      let part ← textOf false part
      return if Text.endsWith s part then s.take (s.length - part.length) else s
    | _ => throw .unfit
  else if is "replace" then some do
    match ← g.onlyByPosition [("old", none), ("new", none), ("count", some (int (-1)))] with
    | [old, new, count] =>
      return Text.replaced (← textOf safe old) (← textOf safe new)
        (Text.limitOf s (← wholeOf count)) s
    | _ => throw .unfit
  else none

/-- The parts of a text between separators, from the front or from the back. -/
def split (safe fromBack : Bool) (s : Text) (g : Given) : Work Item := do
  match ← lift (g.forParameters [("sep", some null), ("maxsplit", some (int (-1)))]) with
  | [separator, limit] =>
    let limit := Text.limitOf s (← lift (wholeOf limit))
    match separator with
    | null =>
      listOf safe (if fromBack then Text.wordsAtLast limit s else Text.wordsAtFirst limit s)
    | separator =>
      let separator ← lift (textOf false separator)
      if separator.isEmpty then throw .badValue
      listOf safe (if fromBack then Text.splitAtLast separator limit s
        else Text.splitAtFirst separator limit s)
  | _ => throw .unfit

/-- The text before an occurrence, the occurrence, and the text behind it. -/
def partition (safe fromBack : Bool) (s : Text) (g : Given) : Work Item := do
  match ← lift (g.onlyByPosition [("sep", none)]) with
  | [separator] =>
    let separator ← lift (textOf false separator)
    if separator.isEmpty then throw .badValue
    let place := if fromBack then Text.lastIndexOf? separator s else Text.indexOf? separator s
    match place with
    | some n => return parted safe (s.take n) separator (s.drop (n + separator.length))
    | none => return if fromBack then parted safe [] [] s else parted safe s [] []
  | _ => throw .unfit

/-- Texts with a text between neighbours. -/
def join (safe : Bool) (s : Text) (g : Given) : Work Item := do
  match ← lift (g.onlyByPosition [("iterable", none)]) with
  | [items] =>
    let parts ← (← takeAll items).mapM fun i => do
      if safe then lift (i.escapedText (← heap)) else lift (textOf false i)
    return text safe (Text.join s parts)
  | _ => throw .unfit

/-- A text with characters replaced as a mapping from their codes tells. -/
def mapCharacters (safe : Bool) (s : Text) (g : Given) : Work Item := do
  match ← lift (g.onlyByPosition [("table", none)]) with
  | [table] =>
    let cells ← heap
    let parts ← s.mapM fun c => do
      match ← lift (table.at? cells (nat c.toNat)) with
      | none => pure [c]
      | some null => pure []
      | some (text _ t) => pure t
      | some (int n) =>
        if 0 ≤ n && n < 0x110000 then pure [Char.ofNat n.toNat] else throw .badValue
      | some _ => throw .unfit
    return text safe parts.flatten
  | _ => throw .unfit

/-- Call a member of a text, one that does not fill places. -/
def call (safe : Bool) (s : Text) (name : Text) (g : Given) : Work Item := do
  let is (word : String) : Bool := name = Text.of word
  if let some answer := question? name s then
    let _ ← lift (g.onlyByPosition [])
    return bool answer
  if let some t := recased? name s then
    let _ ← lift (g.onlyByPosition [])
    return text safe t
  if let some answer := search? name s g then return ← lift answer
  if let some answer := edited? safe name s g then return text safe (← lift answer)
  if is "split" then split safe false s g
  else if is "rsplit" then split safe true s g
  else if is "splitlines" then
    match ← lift (g.forParameters [("keepends", some (bool false))]) with
    | [keep] => listOf safe (if ← isTrue keep then Text.keptLines s else Text.visibleLines s)
    | _ => throw .unfit
  else if is "partition" then partition safe false s g
  else if is "rpartition" then partition safe true s g
  else if is "join" then join safe s g
  else if is "translate" then mapCharacters safe s g
  else if is "encode" then
    let _ ← lift (g.forParameters
      [("encoding", some (plain (Text.of "utf-8"))), ("errors", some (plain (Text.of "strict")))])
    return bytes (Text.encode s)
  else throw .unfit

end TextMethod

end Item

end Template

end Scaffold
