import Scaffold.Template.Item.Basic
import Scaffold.Value.Written

/-!
# Items as text

Two ways to write an item: `shown` shows what it is, with quotes around text, and `written` is
what printing it puts out. A collection that contains itself is shown with dots where it would
begin again.
-/

namespace Scaffold

namespace Template

namespace Item

/-- How deep items may nest. -/
def depth : Nat := 400

/-- Whole numbers of more digits than this are not written. -/
def mostDigits : Nat := 4300

/-- A whole number, unless it is too long. -/
def intText (n : Int) : Except Fault Text :=
  if Decimal.tenTo mostDigits ≤ n.natAbs then .error .badValue else .ok (Text.ofInt n)

/-- Something in angle brackets. -/
def angled (s : Text) : Text := '<' :: s ++ ['>']

/-- A function that every template can call, shown. -/
def builtinText : Builtin → Text
  | .range => Text.of "<class 'range'>"
  | .dict => Text.of "<class 'dict'>"
  | .lipsum => Text.of "<function generate_lorem_ipsum>"
  | .cycler => Text.of "<class 'jinja2.utils.Cycler'>"
  | .joiner => Text.of "<class 'jinja2.utils.Joiner'>"
  | .namespace => Text.of "<class 'jinja2.utils.Namespace'>"

/-- A name in quotes, or a word for no name. -/
def nameText (absent : String) (name : Option Text) : Text :=
  match name with
  | some s => Text.quoted s
  | none => Text.of absent

/-- How many turns a loop has. Items that were not tested yet count. -/
def loopLength (l : LoopState) : Nat :=
  l.length.getD (l.index + 1 + l.source.pending.length + (if l.ahead.isSome then 1 else 0))

/-- Entries between braces. -/
def mapText (parts : List (Text × Text)) : Text :=
  '\x7b' :: Value.items (parts.map fun (k, v) => k ++ ':' :: ' ' :: v) ++ ['\x7d']

/-- What an aspect of a mapping is called. -/
def aspectName : Aspect → String
  | .keys => "dict_keys"
  | .values => "dict_values"
  | .entries => "dict_items"

/-- What an aspect of a mapping looks at. -/
def aspectItems : Aspect → List (Item × Item) → List Item
  | .keys, es => es.map (·.1)
  | .values, es => es.map (·.2)
  | .entries, es => es.map fun (k, v) => pair k v

/-- A range, shown. -/
def rangeText (start stop step : Int) : Text :=
  Value.callText "range" <|
    [Text.ofInt start, Text.ofInt stop] ++ (if step = 1 then [] else [Text.ofInt step])

/-- An item, shown. `above` are the cells that it is shown inside of. -/
def shownIn (cells : Array Cell) : (fuel : Nat) → (above : List Address) → Item → Except Fault Text
  | 0, _, _ => .error .tooDeep
  | fuel + 1, above, item =>
    let entries (a : Address) (es : List (Item × Item)) : Except Fault (List (Text × Text)) :=
      es.mapM fun (k, v) => do
        return (← shownIn cells fuel (a :: above) k, ← shownIn cells fuel (a :: above) v)
    match item with
    | undefined _ => .ok (Text.of "Undefined")
    | null => .ok (Text.of "None")
    | bool b => .ok (Value.boolText b)
    | int n => intText n
    | float x => .ok (Decimal.written x)
    | text safe s =>
      .ok (if safe then Value.callText "Markup" [Text.quoted s] else Text.quoted s)
    | bytes b => .ok (Text.quotedBytes b)
    | date d => .ok (Value.dateDisplay d)
    | moment t => .ok (Value.momentDisplay t)
    | tuple _ items => do return Value.tupleText (← items.mapM fun i => shownIn cells fuel above i)
    | range start stop step => .ok (rangeText start stop step)
    | builtin f => .ok (builtinText f)
    | method _ name => .ok (angled (Text.of "built-in method " ++ name))
    | self name _ => .ok (angled (Text.of "TemplateReference " ++ nameText "None" name))
    | block name _ _ => .ok (angled (Text.of "BlockReference " ++ Text.quoted name))
    | aspect a of => match cells[of]? with
      | some (.map es) => do
        let parts ← (aspectItems a es).mapM fun i => shownIn cells fuel (of :: above) i
        return Value.callText (aspectName a) ['[' :: Value.items parts ++ [']']]
      | _ => .error .broken
    | ref a => match cells[a]? with
      | some (.list items) =>
        if above.contains a then .ok (Text.of "[...]") else do
          let parts ← items.mapM fun i => shownIn cells fuel (a :: above) i
          return '[' :: Value.items parts ++ [']']
      | some (.map es) =>
        if above.contains a then .ok ('\x7b' :: Text.of "..." ++ ['\x7d']) else do
          return mapText (← entries a es)
      | some (.set items) => do
        return Value.setText (← items.mapM fun i => shownIn cells fuel (a :: above) i)
      | some (.space es) =>
        if above.contains a then .ok (Text.of "<Namespace ...>") else do
          return angled (Text.of "Namespace " ++ mapText (← entries a es))
      | some (.stream ..) => .ok (Text.of "<generator object>")
      | some (.cycler ..) => .ok (Text.of "<jinja2.utils.Cycler object>")
      | some (.joiner ..) => .ok (Text.of "<jinja2.utils.Joiner object>")
      | some (.loop l) => .ok <| angled <|
          Text.of "LoopContext " ++ Text.ofNat (l.index + 1) ++ '/' :: Text.ofNat (loopLength l)
      | some (.routine r) => .ok (angled (Text.of "Macro " ++ nameText "anonymous" r.name))
      | some (.module m) => .ok (angled (Text.of "TemplateModule " ++ Text.quoted m.name))
      | _ => .error .broken

/-- An item, shown. -/
def shown (cells : Array Cell) (item : Item) : Except Fault Text := shownIn cells depth [] item

/-- What printing an item puts out. -/
def written (cells : Array Cell) (item : Item) : Except Fault Text :=
  match item with
  | undefined strict => if strict then .error .undefined else .ok []
  | text _ s => .ok s
  | date d => .ok d.text
  | moment t => .ok (t.text ' ')
  | ref a => match cells[a]? with
    | some (.module m) => .ok m.output
    | _ => shown cells item
  | item => shown cells item

/-! ### Escaping -/

/-- A character that means something in markup, escaped. -/
def escapeChar (c : Char) : Text :=
  if c = '&' then Text.of "&amp;"
  else if c = '<' then Text.of "&lt;"
  else if c = '>' then Text.of "&gt;"
  else if c = '"' then Text.of "&#34;"
  else if c = '\'' then Text.of "&#39;"
  else [c]

/-- A text with everything that means something in markup escaped. -/
def escaped (s : Text) : Text := s.flatMap escapeChar

/-- What an item is as safe text. -/
def escapedText (cells : Array Cell) (item : Item) : Except Fault Text :=
  match item with
  | text true s => .ok s
  | ref a => match cells[a]? with
    | some (.module m) => .ok m.output
    | _ => (written cells item).map escaped
  | item => (written cells item).map escaped

end Item

/-- What printing an item puts out. -/
def writtenText (item : Item) : Work Text := do lift (item.written (← heap))

end Template

end Scaffold
