import Scaffold.Template.Item.Format
import Scaffold.Template.Item.Operate
import Scaffold.Template.Item.TextMethod
import Scaffold.Template.Item.TimeMember

/-!
# Members of items

What stands behind a dot. A member of an item goes before an entry of the same name, an entry
asked for in square brackets goes before a member. Members that are functions wait to be called.
-/

namespace Scaffold

namespace Template

namespace Item

/-! ### Names of members -/

/-- Members of lists that are called. -/
def listNames : List String :=
  ["append", "clear", "copy", "count", "extend", "index", "insert", "pop", "remove", "reverse",
    "sort"]

/-- Members of mappings that are called. -/
def mapNames : List String :=
  ["clear", "copy", "fromkeys", "get", "items", "keys", "pop", "popitem", "setdefault", "update",
    "values"]

/-- Members of sets that are called. -/
def setNames : List String :=
  ["add", "clear", "copy", "difference", "discard", "intersection", "isdisjoint", "issubset",
    "issuperset", "remove", "union"]

/-- Members of whole numbers that are called. -/
def wholeNames : List String := ["as_integer_ratio", "bit_count", "bit_length", "conjugate"]

/-- Members of floating-point numbers that are called. -/
def realNames : List String := ["as_integer_ratio", "conjugate", "is_integer"]

/-- Members of an item that are called. -/
def methodNames (cells : Array Cell) : Item → List String
  | text .. => TextMethod.names
  | bool _ | int _ => wholeNames
  | float _ => realNames
  | bytes _ => ["decode", "hex"]
  | tuple .. | range .. => ["count", "index"]
  | date _ => TimeMember.dateNames
  | moment _ => TimeMember.momentNames
  | builtin .dict => ["fromkeys"]
  | ref a => match cells[a]? with
    | some (.list _) => listNames
    | some (.map _) => mapNames
    | some (.set _) => setNames
    | some (.cycler ..) => ["next", "reset"]
    | some (.loop _) => ["changed", "cycle"]
    | _ => []
  | _ => []

/-- A member that is not called, if the item has it. -/
def property? (cells : Array Cell) (item : Item) (name : Text) : Option Item :=
  let is (word : String) : Bool := name = Text.of word
  match item with
  | bool b =>
    if is "real" || is "numerator" then some (nat (if b then 1 else 0))
    else if is "imag" then some (nat 0)
    else if is "denominator" then some (nat 1)
    else none
  | int n =>
    if is "real" || is "numerator" then some (int n)
    else if is "imag" then some (nat 0)
    else if is "denominator" then some (nat 1)
    else none
  | float x => if is "real" then some (float x) else if is "imag" then some (float 0.0) else none
  | tuple true [key, members] =>
    if is "grouper" then some key else if is "list" then some members else none
  | range start stop step =>
    if is "start" then some (int start)
    else if is "stop" then some (int stop)
    else if is "step" then some (int step)
    else none
  | date d => TimeMember.datePart? name d
  | moment t => TimeMember.momentPart? name t
  | block s depth context => match cells[context]? with
    | some (.context c) =>
      if is "super" && depth + 1 < ((c.blocks.lookup s).getD []).length then
        some (block s (depth + 1) context)
      else none
    | _ => none
  | ref a => match cells[a]? with
    | some (.space fields) => fields.findSome? fun
      | (text _ k, v) => if k = name then some v else none
      | _ => none
    | some (.cycler items position) => if is "current" then items[position]? else none
    | some (.joiner separator isUsed) =>
      if is "sep" then some separator else if is "used" then some (bool isUsed) else none
    | some (.loop l) =>
      if is "index" then some (nat (l.index + 1))
      else if is "index0" then some (nat l.index)
      else if is "first" then some (bool (l.index == 0))
      else if is "depth" then some (nat (l.depth + 1))
      else if is "depth0" then some (nat l.depth)
      else none
    | some (.routine r) =>
      if is "name" then some (match r.name with
        | some s => plain s
        | none => null)
      else if is "arguments" then some (tuple false (r.parameters.map plain))
      else if is "caller" then some (bool r.takesCaller)
      else if is "catch_kwargs" then some (bool r.takesNamed)
      else if is "catch_varargs" then some (bool r.takesRest)
      else none
    | some (.module m) => m.exports.lookup name
    | _ => none
  | _ => none

/-- A member of an item, if it has it. -/
def member? (item : Item) (name : Text) : Work (Option Item) := do
  if item.isUndefined then
    if name.take 2 = ['_', '_'] then return none else throw .undefined
  let cells ← heap
  match property? cells item name with
  | some m => return some m
  | none =>
    if (methodNames cells item).any fun word => name = Text.of word then
      return some (method item name)
    else return none

/-- The item at a position or under a key, if there is one. A template has its blocks under their
names. -/
def entry? (item key : Item) : Work (Option Item) := do
  match item with
  | self _ context => match ← cellAt context, key with
    | .context c, text _ name =>
      return if (c.blocks.lookup name).isSome then some (block name 0 context) else none
    | _, _ => return none
  | item => lift (item.at? (← heap) key)

/-- What stands behind a dot. -/
def dotted (strict : Bool) (item : Item) (name : Text) : Work Item := do
  match ← member? item name with
  | some m => return m
  | none => return (← entry? item (plain name)).getD (undefined strict)

/-- What stands in square brackets. -/
def indexed (strict : Bool) (item key : Item) : Work Item := do
  match ← entry? item key with
  | some found => return found
  | none => match key with
    | text _ name => return (← member? item name).getD (undefined strict)
    | _ => return undefined strict

/-! ### Calling members -/

/-- The entries of a mapping with an item put under a key. -/
def putEntry (cells : Array Cell) (key item : Item) :
    List (Item × Item) → Except Fault (List (Item × Item))
  | [] => .ok [(key, item)]
  | (k, v) :: es => do
    if isSame k key then return (k, item) :: es
    else if ← equal cells k key then return (k, item) :: es
    else return (k, v) :: (← putEntry cells key item es)

/-- The entries of a mapping without a key. -/
def dropEntry (cells : Array Cell) (key : Item) :
    List (Item × Item) → Except Fault (List (Item × Item))
  | [] => .ok []
  | (k, v) :: es => do
    if isSame k key then return es
    else if ← equal cells k key then return es
    else return (k, v) :: (← dropEntry cells key es)

/-- Entries with others put over them, one by one. -/
def putEntries (entries more : List (Item × Item)) : Work (List (Item × Item)) := do
  let cells ← heap
  more.foldlM (fun es (k, v) => do
    lift (checkKey cells k)
    lift (putEntry cells k v es)) entries

/-- The entries that an item is made of: those of a mapping, or pairs. -/
def entriesOf (item : Item) : Work (List (Item × Item)) := do
  let pairs : Work (List (Item × Item)) := do
    (← takeAll item).mapM fun i => do
      match ← takeAll i with
      | [k, v] => return (k, v)
      | _ => throw .badValue
  match item with
  | ref a => match ← cellAt a with
    | .map es => return es
    | _ => pairs
  | _ => pairs

/-- Entries from what a call is given: of at most one item, and by name. -/
def entriesGiven (g : Given) : Work (List (Item × Item)) := do
  let first ← match g.positional with
    | [] => pure []
    | [item] => entriesOf item
    | _ => throw .unfit
  putEntries [] (first ++ g.named.map fun (k, v) => (plain k, v))

/-- Different items, each once. -/
def distinct (items : List Item) : Work (List Item) := do
  let cells ← heap
  let kept ← items.foldlM (fun (kept : List Item) i => do
    lift (checkKey cells i)
    if ← lift (isAmong (equal cells) i kept) then return kept else return i :: kept) []
  return kept.reverse

/-- The place of an item among others. -/
def placeOf (cells : Array Cell) (item : Item) : Nat → List Item → Except Fault (Option Nat)
  | _, [] => .ok none
  | n, i :: is => do
    if isSame i item then return some n
    else if ← equal cells i item then return some n
    else placeOf cells item (n + 1) is

/-- How often an item is among others. -/
def timesAmong (cells : Array Cell) (item : Item) (items : List Item) : Except Fault Nat := do
  return (← items.filterM fun i => do
    if isSame i item then return true else equal cells i item).length

/-- Count an item or tell its place. -/
def searchItems (items : List Item) (name : Text) (g : Given) : Work Item := do
  let cells ← heap
  if name = Text.of "count" then
    match ← lift (g.onlyByPosition [("value", none)]) with
    | [item] => return nat (← lift (timesAmong cells item items))
    | _ => throw .unfit
  else
    match ← lift (g.onlyByPosition [("value", none), ("start", some (nat 0)),
      ("stop", some (nat items.length))]) with
    | [item, start, stop] =>
      let first := (boundOf items.length 0 items.length (← lift (TextMethod.wholeOf start))).toNat
      let last := (boundOf items.length 0 items.length (← lift (TextMethod.wholeOf stop))).toNat
      match ← lift (placeOf cells item first ((items.take last).drop first)) with
      | some n => return nat n
      | none => throw .badValue
    | _ => throw .unfit

/-- Call a member of a list. -/
def callList (a : Address) (items : List Item) (name : Text) (g : Given) : Work Item := do
  let is (word : String) : Bool := name = Text.of word
  let cells ← heap
  let given (parameters : List Parameter) : Work (List Item) := lift (g.onlyByPosition parameters)
  if is "append" then
    let added ← given [("object", none)]
    setCell a (.list (items ++ added))
    return null
  else if is "extend" then
    let added ← (← given [("iterable", none)]).mapM takeAll
    setCell a (.list (items ++ added.flatten))
    return null
  else if is "insert" then
    match ← given [("index", none), ("object", none)] with
    | [index, item] =>
      let n := (boundOf items.length 0 items.length (← lift (TextMethod.wholeOf index))).toNat
      setCell a (.list (items.take n ++ item :: items.drop n))
      return null
    | _ => throw .unfit
  else if is "pop" then
    match ← given [("index", some (int (-1)))] with
    | [index] =>
      match indexOf? items.length (← lift (TextMethod.wholeOf index)) with
      | some n =>
        setCell a (.list (items.eraseIdx n))
        return items.getD n null
      | none => throw .noIndex
    | _ => throw .unfit
  else if is "remove" then
    match ← given [("value", none)] with
    | [item] => match ← lift (placeOf cells item 0 items) with
      | some n =>
        setCell a (.list (items.eraseIdx n))
        return null
      | none => throw .badValue
    | _ => throw .unfit
  else if is "sort" then
    let order := Given.forParameters ⟨[], g.named⟩
      [("key", some null), ("reverse", some (bool false))]
    match ← lift order with
    | [null, reverse] =>
      if !g.positional.isEmpty then throw .unfit
      let pairs := items.map fun i => (i, i)
      let less := ordered cells .lt
      let result ← lift (if ← isTrue reverse then sortedDown less pairs else sorted less pairs)
      setCell a (.list (result.map (·.2)))
      return null
    | _ => throw .unfit
  else if is "clear" then
    let _ ← given []
    setCell a (.list [])
    return null
  else if is "copy" then
    let _ ← given []
    newList items
  else if is "reverse" then
    let _ ← given []
    setCell a (.list items.reverse)
    return null
  else searchItems items name g

/-- Call a member of a mapping. -/
def callMap (a : Address) (es : List (Item × Item)) (name : Text) (g : Given) : Work Item := do
  let is (word : String) : Bool := name = Text.of word
  let cells ← heap
  let given (parameters : List Parameter) : Work (List Item) := lift (g.onlyByPosition parameters)
  let find (key : Item) : Work (Option Item) := do
    lift (checkKey cells key)
    lift (lookup? (equal cells) key es)
  if is "get" then
    match ← given [("key", none), ("default", some null)] with
    | [key, absent] => return (← find key).getD absent
    | _ => throw .unfit
  else if is "setdefault" then
    match ← given [("key", none), ("default", some null)] with
    | [key, absent] => match ← find key with
      | some found => return found
      | none =>
        setCell a (.map (es ++ [(key, absent)]))
        return absent
    | _ => throw .unfit
  else if is "pop" then
    match ← given [("key", none), ("default", some (undefined true))] with
    | [key, absent] => match ← find key with
      | some found =>
        setCell a (.map (← lift (dropEntry cells key es)))
        return found
      | none => if g.positional.length = 1 then throw .noKey else return absent
    | _ => throw .unfit
  else if is "update" then
    setCell a (.map (← putEntries es (← entriesGiven g)))
    return null
  else if is "fromkeys" then
    match ← given [("iterable", none), ("value", some null)] with
    | [keys, value] =>
      newMap (← putEntries [] ((← takeAll keys).map fun k => (k, value)))
    | _ => throw .unfit
  else
    let _ ← given []
    if is "items" then return aspect .entries a
    else if is "keys" then return aspect .keys a
    else if is "values" then return aspect .values a
    else if is "clear" then
      setCell a (.map [])
      return null
    else if is "copy" then newMap es
    else if is "popitem" then
      match es.getLast? with
      | some (k, v) =>
        setCell a (.map es.dropLast)
        return pair k v
      | none => throw .noKey
    else throw .unfit

/-- Call a member of a set. -/
def callSet (a : Address) (items : List Item) (name : Text) (g : Given) : Work Item := do
  let is (word : String) : Bool := name = Text.of word
  let cells ← heap
  let has (i : Item) (items : List Item) : Work Bool := do
    lift (checkKey cells i)
    lift (isAmong (equal cells) i items)
  let without (i : Item) : Work (List Item) := items.filterM fun j => do
    return !(← has j [i])
  if is "clear" then
    let _ ← lift (g.onlyByPosition [])
    setCell a (.set [])
    return null
  else if is "copy" then
    let _ ← lift (g.onlyByPosition [])
    refTo (.set items)
  else match ← lift (g.onlyByPosition [("other", none)]) with
    | [given] =>
      if is "add" then
        setCell a (.set (← distinct (items ++ [given])))
        return null
      else if is "discard" then
        setCell a (.set (← without given))
        return null
      else if is "remove" then
        if !(← has given items) then throw .noKey
        setCell a (.set (← without given))
        return null
      else
        let others ← takeAll given
        let shared ← items.filterM fun i => has i others
        if is "union" then refTo (.set (← distinct (items ++ others)))
        else if is "intersection" then refTo (.set shared)
        else if is "difference" then
          refTo (.set (← items.filterM fun i => do return !(← has i others)))
        else if is "isdisjoint" then return bool shared.isEmpty
        else if is "issubset" then return bool (shared.length == items.length)
        else if is "issuperset" then
          return bool ((← others.filterM fun i => has i items).length == others.length)
        else throw .unfit
    | _ => throw .unfit

/-- Call a member of a number. -/
def callNumber (n : Number) (name : Text) (g : Given) : Except Fault Item := do
  let _ ← g.onlyByPosition []
  let is (word : String) : Bool := name = Text.of word
  match n with
  | .whole n =>
    if is "bit_length" then return nat (Decimal.bitCount n.natAbs)
    else if is "bit_count" then
      return nat ((Nat.toDigits 2 n.natAbs).filter (· == '1')).length
    else if is "as_integer_ratio" then return pair (int n) (nat 1)
    else return int n
  | .real x =>
    if is "is_integer" then return bool (x.isFinite && x.floor == x)
    else if is "as_integer_ratio" then
      match Decimal.fraction? x with
      | some (a, b) =>
        let common := Nat.gcd a.natAbs b
        return pair (int (a / common)) (nat (b / common))
      | none => throw (if x.isNaN then .badValue else .tooLarge)
    else return float x

/-- Call a member of bytes. -/
def callBytes (b : List UInt8) (name : Text) (g : Given) : Except Fault Item :=
  if name = Text.of "hex" then do
    let _ ← g.onlyByPosition []
    return plain (b.flatMap fun u => Text.hexDigits 2 u.toNat)
  else do
    let _ ← g.forParameters
      [("encoding", some (plain (Text.of "utf-8"))), ("errors", some (plain (Text.of "strict")))]
    match Text.decode? b with
    | some s => return plain s
    | none => throw .badValue

/-- Call a member of a text. -/
def callText (safe : Bool) (s : Text) (name : Text) (g : Given) : Work Item := do
  if name = Text.of "format" then
    return text safe (← lift (format (← heap) safe s g))
  else if name = Text.of "format_map" then
    match ← lift (g.onlyByPosition [("mapping", none)]) with
    | [mapping] =>
      let named := (← entriesOf mapping).filterMap fun
        | (text _ k, v) => some (k, v)
        | _ => none
      return text safe (← lift (format (← heap) safe s ⟨[], named⟩))
    | _ => throw .unfit
  else TextMethod.call safe s name g

/-- Call a member of a cycler: take the item it is at, or go back to the first. -/
def callCycler (a : Address) (items : List Item) (position : Nat) (name : Text) (g : Given) :
    Work Item := do
  let _ ← lift (g.onlyByPosition [])
  if name = Text.of "next" then
    setCell a (.cycler items ((position + 1) % items.length))
    return items.getD position null
  else
    setCell a (.cycler items 0)
    return null

/-- Call a member of a loop: take one of several items in turn, or tell whether items are other
than the last time. -/
def callLoop (a : Address) (l : LoopState) (name : Text) (g : Given) : Work Item := do
  if !g.named.isEmpty then throw .unfit
  if name = Text.of "cycle" then
    if g.positional.isEmpty then throw .unfit
    return g.positional.getD (l.index % g.positional.length) null
  else
    let cells ← heap
    let isSeen ← match l.lastSeen with
      | some items => lift (allEqual (equal cells) items g.positional)
      | none => pure false
    if isSeen then return bool false
    else
      setCell a (.loop { l with lastSeen := some g.positional })
      return bool true

/-- Call a member of an item. -/
def callMember (item : Item) (name : Text) (g : Given) : Work Item := do
  match item with
  | text safe s => callText safe s name g
  | bytes b => lift (callBytes b name g)
  | tuple _ items => searchItems items name g
  | range start stop step => searchItems (rangeItems start stop step) name g
  | date d => lift (TimeMember.callDate d (TimeMember.startOf d) name g)
  | moment t => lift (TimeMember.callMoment t name g)
  | builtin .dict => callMap 0 [] name g
  | ref a => match ← cellAt a with
    | .list items => callList a items name g
    | .map es => callMap a es name g
    | .set items => callSet a items name g
    | .cycler items position => callCycler a items position name g
    | .loop l => callLoop a l name g
    | _ => throw .unfit
  | item => match item.number? with
    | some n => lift (callNumber n name g)
    | none => throw .unfit

/-! ### Calling functions that every template has -/

/-- A range from its bounds. -/
def newRange (g : Given) : Except Fault Item := do
  if !g.named.isEmpty then throw .unfit
  match ← g.positional.mapM TextMethod.wholeOf with
  | [stop] => return range 0 stop 1
  | [start, stop] => return range start stop 1
  | [start, stop, step] => if step = 0 then throw .badValue else return range start stop step
  | _ => throw .unfit

/-- Call a function that every template has. -/
def callBuiltin (f : Builtin) (g : Given) : Work Item := do
  match f with
  | .range => lift (newRange g)
  | .dict => newMap (← entriesGiven g)
  | .namespace => refTo (.space (← entriesGiven g))
  | .cycler =>
    if !g.named.isEmpty then throw .unfit
    if g.positional.isEmpty then throw .refused
    refTo (.cycler g.positional 0)
  | .joiner =>
    match ← lift (g.forParameters [("sep", some (plain [',', ' ']))]) with
    | [separator] => refTo (.joiner separator false)
    | _ => throw .unfit
  | .lipsum => return text true []

end Item

end Template

end Scaffold
