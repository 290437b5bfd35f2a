import Scaffold.Template.Filter.Key
import Scaffold.Text.Link
import Scaffold.Text.Markup
import Scaffold.Text.UrlQuoted
import Scaffold.Text.Wrap
import Scaffold.Words.Case
import Scaffold.Words.Plural

/-!
# Filters for text

Each takes the item as text and answers with a text. A safe text stays safe where nothing can
get into it that is not.
-/

namespace Scaffold

namespace Template

namespace Apply

open Item

/-- A text with a change made to it. -/
def changed (f : Text → Text) (item : Item) (g : Given) : Work Item := do
  let _ ← lift (g.forParameters [])
  let (safe, s) ← softText item
  return .text safe (f s)

/-- The name that an item is, in another style. -/
def restyled (f : Text → Text) (item : Item) (g : Given) : Work Item := do
  let _ ← lift (g.forParameters [])
  return .plain (f (← writtenText item))

/-- Whether a word of a title begins behind a character. -/
def beginsWord (c : Char) : Bool := Text.isBlank c || (Text.of "-(\x7b[<").contains c

/-- A text with a capital at the start of every word. -/
def titled (s : Text) : Text :=
  (runs s).flatMap fun run => match run with
    | c :: rest => Text.upper [c] ++ Text.lower rest
    | [] => []
where
  /-- A text cut where words begin and end. -/
  runs : Text → List Text
    | [] => []
    | c :: s => match runs s with
      | (d :: run) :: rest =>
        if beginsWord c = beginsWord d then (c :: d :: run) :: rest else [c] :: (d :: run) :: rest
      | rest => [c] :: rest

/-- How many words a text has. -/
def wordsIn : (inWord : Bool) → Text → Nat
  | _, [] => 0
  | inWord, c :: s =>
    (if Text.isWord c && !inWord then 1 else 0) + wordsIn (Text.isWord c) s

/-- Blanks on both sides. -/
def runCenter (item : Item) (g : Given) : Work Item := do
  let [width] ← lift (g.forParameters [("width", some (.nat 80))]) | throw .unfit
  let (safe, s) ← softText item
  return .text safe (Text.centered (← lift (TextMethod.wholeOf width)) ' ' s)

/-- Without blanks, or some characters, at both ends. -/
def runTrim (item : Item) (g : Given) : Work Item := do
  let [chars] ← lift (g.forParameters [("chars", some .null)]) | throw .unfit
  let (safe, s) ← softText item
  let test ← lift (TextMethod.stripTest chars)
  return .text safe (Text.dropEnd test (Text.dropStart test s))

/-- One text in place of another. -/
def runReplace (set : Setting) (item : Item) (g : Given) : Work Item := do
  let [old, new, count] ← lift (g.forParameters
    [("old", none), ("new", none), ("count", some .null)]) | throw .unfit
  let limit : Int ← match count with
    | .null => pure (-1)
    | count => lift (TextMethod.wholeOf count)
  if !set.escapes then
    let s ← writtenText item
    return .plain (Text.replaced (← writtenText old) (← writtenText new) (Text.limitOf s limit) s)
  let escapesItem := (← isMarkup old) || ((← isMarkup new) && !(← isMarkup item))
  let (safe, s) ← if escapesItem then do pure (true, ← lift (item.escapedText (← heap)))
    else softText item
  let part (p : Item) : Work Text := do
    let (safePart, t) ← softText p
    return if safe && !safePart then escaped t else t
  return .text safe (Text.replaced (← part old) (← part new) (Text.limitOf s limit) s)

/-- The places of a text filled. -/
def runFormat (item : Item) (g : Given) : Work Item := do
  if !g.positional.isEmpty && !g.named.isEmpty then throw .misuse
  let (safe, s) ← softText item
  let supply ← if g.named.isEmpty then pure (.tuple false g.positional)
    else newMap (g.named.map fun (k, v) => (.plain k, v))
  operate .mod (.text safe s) supply

/-- Every line but the first moved to the right. -/
def indented (indent : Text) (first blank : Bool) (s : Text) : Text :=
  let moved (line : Text) : Text := if line.isEmpty && !blank then line else indent ++ line
  match Text.visibleLines (s ++ ['\n']) with
  | [] => []
  | line :: lines =>
    (if first then indent else []) ++ Text.join ['\n'] (line :: lines.map moved)

/-- Every line but the first moved to the right. -/
def runIndent (item : Item) (g : Given) : Work Item := do
  let [width, first, blank] ← lift (g.forParameters
    [("width", some (.nat 4)), ("first", some (.bool false)), ("blank", some (.bool false))])
    | throw .unfit
  let indent ← match width with
    | .text _ s => pure s
    | width => match ← operate .mul (.plain [' ']) width with
      | .text _ s => pure s
      | _ => throw .unfit
  match item with
  | .text safe s =>
    return .text safe (indented indent (← isTrue first) (← isTrue blank) s)
  | .undefined _ => throw .undefined
  | .ref a => throw (if (← cellAt a) matches .list _ then .noMember else .unfit)
  | _ => throw .unfit

/-- A text cut to a length, with a mark at the end. -/
def runTruncate (item : Item) (g : Given) : Work Item := do
  let [length, killsWords, mark, leeway] ← lift (g.forParameters
    [("length", some (.nat 255)), ("killwords", some (.bool false)),
      ("end", some (.plain (Text.of "..."))), ("leeway", some .null)]) | throw .unfit
  let leeway ← match leeway with
    | .null => pure 5
    | n => lift (TextMethod.wholeOf n)
  let length ← lift (TextMethod.wholeOf length)
  let markSize ← lift (mark.count (← heap))
  if length < markSize || leeway < 0 then throw .broken
  if (← lift (item.count (← heap))) ≤ length + leeway then return item
  match item, mark with
  | .text safe s, .text safeMark end' =>
    let kept := s.take (length - markSize).toNat
    let kept := if ← isTrue killsWords then kept else (Text.splitAtLast [' '] 1 kept).headD []
    return addTexts safe kept safeMark end'
  | .text .., _ => throw .unfit
  | _, _ => throw (if ← isTrue killsWords then .unfit else .noMember)

/-- A text with its lines broken. -/
def runWordWrap (item : Item) (g : Given) : Work Item := do
  let [width, breaksWords, mark, breaksAtHyphens] ← lift (g.forParameters
    [("width", some (.nat 79)), ("break_long_words", some (.bool true)),
      ("wrapstring", some .null), ("break_on_hyphens", some (.bool true))]) | throw .unfit
  let (safe, mark) ← match mark with
    | .null => pure (false, ['\n'])
    | .text safe s => pure (safe, s)
    | _ => throw .noMember
  match item with
  | .text _ s =>
    let lines := Text.visibleLines s
    let width ← lift (TextMethod.wholeOf width)
    if width ≤ 0 && !lines.isEmpty then throw .badValue
    let wrapping : Text.Wrapping :=
      ⟨width.toNat, ← isTrue breaksWords, breaksAtHyphens matches .bool true⟩
    let parts := lines.map fun line => Text.join mark <|
      (Text.wrapped wrapping line).map fun part => if safe then escaped part else part
    return .text safe (Text.join mark parts)
  | .undefined _ => throw .undefined
  | _ => throw .noMember

/-! ### Markup and addresses -/

/-- A text without tags. -/
def runStripTags (item : Item) (g : Given) : Work Item := do
  let _ ← lift (g.forParameters [])
  return .plain (Text.withoutTags (← writtenText item))

/-- The bytes of an item in an address. -/
def bytesOf (item : Item) : Work (List UInt8) := do
  match item with
  | .bytes b => return b
  | item => return Text.encode (← writtenText item)

/-- An item as a part of an address: a text as a path, pairs as a query. -/
def runUrlEncode (item : Item) (g : Given) : Work Item := do
  let _ ← lift (g.forParameters [])
  let path : Work Item := do return .plain (Text.urlQuotedPath (← bytesOf item))
  let query (pairs : List (Item × Item)) : Work Item := do
    let parts ← pairs.mapM fun (k, v) => do
      return Text.urlQuotedQuery (← bytesOf k) ++ '=' :: Text.urlQuotedQuery (← bytesOf v)
    return .plain (Text.join ['&'] parts)
  match item with
  | .text .. => path
  | item => match item.contents (← heap) with
    | .error .undefined => throw .undefined
    | .error _ => path
    | .ok _ => query (← entriesOf item)

/-- A number that may be left out. -/
def wholeIfGiven : Item → Except Fault (Option Int)
  | .null => .ok none
  | item => (TextMethod.wholeOf item).map some

/-- A text with the addresses in it made links. -/
def runUrlize (set : Setting) (item : Item) (g : Given) : Work Item := do
  let [mostShown, noFollow, target, relation, schemes] ← lift (g.forParameters
    [("trim_url_limit", some .null), ("nofollow", some (.bool false)), ("target", some .null),
      ("rel", some .null), ("extra_schemes", some .null)]) | throw .unfit
  let cells ← heap
  let relations ← match relation with
    | .text _ s => pure (Text.wordsAtFirst (s.length + 1) s)
    | item => if ← isTrue item then throw .noMember else pure []
  let relations := relations ++ (if ← isTrue noFollow then [Text.of "nofollow"] else []) ++
    [Text.of "noopener"]
  let relations := relations.eraseDups.mergeSort Text.le
  let schemes ← match schemes with
    | .null => pure []
    | item => do (← takeAll item).mapM fun
      | .text _ s => pure s
      | _ => throw .unfit
  if schemes.any fun s => !Text.Linking.looksLike Text.Linking.schemeSource s then throw .misuse
  let target ← if ← isTrue target then some <$> lift (target.escapedText cells) else pure none
  let linking : Text.Linking :=
    ⟨← lift (wholeIfGiven mostShown), some (escaped (Text.join [' '] relations)), target, schemes⟩
  return .text set.escapes (linking.linkedText (← lift (item.escapedText cells)))

/-- Whether a name of an attribute in markup holds a character that ends it. -/
def endsName (c : Char) : Bool := (9 ≤ c.toNat && c.toNat ≤ 13) || (Text.of " />=").contains c

/-- A mapping as attributes in markup. -/
def runXmlAttr (set : Setting) (item : Item) (g : Given) : Work Item := do
  let [spaced] ← lift (g.forParameters [("autospace", some (.bool true))]) | throw .unfit
  let cells ← heap
  let entries ← match item with
    | .undefined _ => throw .undefined
    | .ref a => match ← cellAt a with
      | .map entries => pure entries
      | _ => throw .noMember
    | _ => throw .noMember
  let parts ← entries.filterMapM fun (k, v) => do
    if v.isUndefined || v matches .null then return none
    let .text safe name := k | throw .unfit
    if name.any endsName then throw .badValue
    return some ((if safe then name else escaped name) ++
      Text.of "=\"" ++ (← lift (v.escapedText cells)) ++ ['"'])
  let s := Text.join [' '] parts
  return .text set.escapes (if !s.isEmpty && (← isTrue spaced) then ' ' :: s else s)

end Apply

end Template

end Scaffold
