import Scaffold.Template.Filter.Key

/-!
# Filters for collections

Picking, sorting and grouping the items of an item. Some answer with items that can be taken
once.
-/

namespace Scaffold

namespace Template

namespace Apply

open Item

/-- How many items there are. -/
def runCount (item : Item) (g : Given) : Work Item := do
  let _ ← lift (g.forParameters [])
  return .nat (← lift (item.count (← heap)))

/-- The first item. -/
def runFirst (set : Setting) (item : Item) (g : Given) : Work Item := do
  let _ ← lift (g.forParameters [])
  return (← takeFirst item).getD (.undefined set.strict)

/-- The items of an item that can be gone over backwards, last one first. -/
def backwards (item : Item) : Work (List Item) := do
  if let .ref a := item then
    if (← cellAt a) matches .set _ | .stream .. then throw .unfit
  return (← lift (item.contents (← heap))).1.reverse

/-- The last item. -/
def runLast (set : Setting) (item : Item) (g : Given) : Work Item := do
  let _ ← lift (g.forParameters [])
  return (← backwards item).headD (.undefined set.strict)

/-- One of the items. -/
def runRandom (set : Setting) (item : Item) (g : Given) : Work Item := do
  let _ ← lift (g.forParameters [])
  if (← lift (item.count (← heap))) = 0 then return .undefined set.strict
  match item with
  | .text .. | .bytes _ | .tuple .. | .range .. => runFirst set item ⟨[], []⟩
  | .ref a => match ← cellAt a with
    | .list items => return items.headD (.undefined set.strict)
    | .map _ => throw .noKey
    | _ => throw .unfit
  | _ => throw .unfit

/-- The items, or the characters, in the opposite order. -/
def runReverse (item : Item) (g : Given) : Work Item := do
  let _ ← lift (g.forParameters [])
  match item with
  | .text safe s => return .text safe s.reverse
  | item => match ← attempt (backwards item) with
    | .ok items => newStream items
    | .error .unfit => match ← attempt (takeAll item) with
      | .ok items => newList items.reverse
      | .error .unfit => throw .misuse
      | .error fault => throw fault
    | .error fault => throw fault

/-- The items as a list. -/
def runList (item : Item) (g : Given) : Work Item := do
  let _ ← lift (g.forParameters [])
  newList (← takeAll item)

/-- The entries of a mapping as pairs. -/
def runItems (item : Item) (g : Given) : Work Item := do
  let _ ← lift (g.forParameters [])
  let pairs : Work (List Item × Option Fault) := do
    match item with
    | .undefined _ => return ([], none)
    | .ref a => match ← cellAt a with
      | .map entries => return (aspectItems .entries entries, none)
      | _ => throw .unfit
    | _ => throw .unfit
  streamed pairs fun pair => return [pair]

/-- Texts of the items with a text between neighbours. -/
def runJoin (set : Setting) (item : Item) (g : Given) : Work Item := do
  let [separator, attr] ← lift (g.forParameters
    [("d", some (.plain [])), ("attribute", some .null)]) | throw .unfit
  let path ← lift (pathOf attr)
  let items ← (← takeAll item).mapM (follow set path .null)
  let cells ← heap
  let plainParts : Work (List Text) := items.mapM writtenText
  let safeParts : Work (List Text) := items.mapM fun i => lift (i.escapedText cells)
  if !set.escapes then
    return .plain (Text.join (← writtenText separator) (← plainParts))
  else if ← isMarkup separator then
    let s ← lift (separator.escapedText cells)
    return .text true (Text.join s (← safeParts))
  else if ← items.anyM isMarkup then
    let s ← lift (separator.escapedText cells)
    return .text true (Text.join s (← safeParts))
  else
    return .plain (Text.join (← writtenText separator) (← plainParts))

/-! ### Order -/

/-- Items in the order of their keys. -/
def sortedBy (keyed : List (Item × Item)) (reverse : Item) : Work (List (Item × Item)) := do
  let down := (← lift (TextMethod.wholeOf reverse)) != 0
  let less := ordered (← heap) .lt
  lift (if down then sortedDown less keyed else sorted less keyed)

/-- The items in order. -/
def runSort (set : Setting) (item : Item) (g : Given) : Work Item := do
  let [reverse, keepsCase, attributes] ← lift (g.forParameters
    [("reverse", some (.bool false)), ("case_sensitive", some (.bool false)),
      ("attribute", some .null)]) | throw .unfit
  let keys ← Key.ofAttributes attributes keepsCase
  let items ← takeAll item
  let keyed ← items.mapM fun i => do
    return (.tuple false (← keys.mapM fun k => k.of set i), i)
  newList ((← sortedBy keyed reverse).map (·.2))

/-- The entries of a mapping in order, by key or by value. -/
def runDictSort (item : Item) (g : Given) : Work Item := do
  let [keepsCase, by', reverse] ← lift (g.forParameters
    [("case_sensitive", some (.bool false)), ("by", some (.plain (Text.of "key"))),
      ("reverse", some (.bool false))]) | throw .unfit
  let byValue ← match by' with
    | .text _ s =>
      if s = Text.of "key" then pure false
      else if s = Text.of "value" then pure true
      else throw .misuse
    | _ => throw .misuse
  let entries ← match item with
    | .undefined _ => throw .undefined
    | .ref a => match ← cellAt a with
      | .map entries => pure entries
      | _ => throw .noMember
    | _ => throw .noMember
  let keyed ← entries.mapM fun (k, v) => do
    let key := if byValue then v else k
    return (if ← isTrue keepsCase then key else folded key, pair k v)
  newList ((← sortedBy keyed reverse).map (·.2))

/-- The item with the least or the greatest key, the first one of several. -/
def runExtreme (set : Setting) (c : Comparison) (item : Item) (g : Given) : Work Item := do
  let [keepsCase, attr] ← lift (g.forParameters
    [("case_sensitive", some (.bool false)), ("attribute", some .null)]) | throw .unfit
  let items ← takeAll item
  let key ← Key.ofAttribute attr keepsCase .null
  match items with
  | [] => return .undefined set.strict
  | first :: rest =>
    let (_, best) ← rest.foldlM (fun (bestKey, best) i => do
      let k ← key.of set i
      return if ← compareItems c k bestKey then (k, i) else (bestKey, best))
      (← key.of set first, first)
    return best

/-! ### Parts -/

/-- Items with their keys, cut where the key changes. -/
def groups (cells : Array Cell) : List (Item × Item) → Except Fault (List (Item × List Item))
  | [] => .ok []
  | (k, i) :: rest => do
    match ← groups cells rest with
    | (k', members) :: more =>
      if isSame k k' then return (k, i :: members) :: more
      else if ← equal cells k k' then return (k, i :: members) :: more
      else return (k, [i]) :: (k', members) :: more
    | [] => return [(k, [i])]

/-- The items in groups with equal keys. -/
def runGroupBy (set : Setting) (item : Item) (g : Given) : Work Item := do
  let [attr, default, keepsCase] ← lift (g.forParameters
    [("attribute", none), ("default", some .null), ("case_sensitive", some (.bool false))])
    | throw .unfit
  let key ← Key.ofAttribute attr keepsCase default
  let keyed ← (← takeAll item).mapM fun i => do return (← key.of set i, i)
  let found ← lift (groups (← heap) (← sortedBy keyed (.bool false)))
  newList <| ← found.mapM fun (k, members) => do
    let name ← match members with
      | first :: _ => if key.keepsCase then pure k else follow set key.path key.default first
      | [] => pure k
    return .tuple true [name, ← newList members]

/-- The items with different keys, the first ones of each key. -/
def runUnique (set : Setting) (item : Item) (g : Given) : Work Item := do
  let [keepsCase, attr] ← lift (g.forParameters
    [("case_sensitive", some (.bool false)), ("attribute", some .null)]) | throw .unfit
  let seen ← allocate (.list [])
  let items : Work (List Item × Option Fault) := takeLazily item
  streamed items fun i => do
    let key ← Key.ofAttribute attr keepsCase .null
    let k ← key.of set i
    let cells ← heap
    lift (k.checkKey cells)
    match ← cellAt seen with
    | .list keys =>
      if ← lift (isAmong (equal cells) k keys) then return []
      else
        setCell seen (.list (keys ++ [k]))
        return [i]
    | _ => throw .broken

/-- Rows of items. The last row is filled up if there is something to fill it with. -/
def rows (size : Item) (cells : Array Cell) : (row : List Item) → List Item →
    Except Fault (List (List Item))
  | row, [] => .ok (if row.isEmpty then [] else [row.reverse])
  | row, i :: items => do
    if ← equal cells (.nat row.length) size then
      return row.reverse :: (← rows size cells [i] items)
    else rows size cells (i :: row) items

/-- The items in rows of a size. -/
def runBatch (item : Item) (g : Given) : Work Item := do
  let [size, filler] ← lift (g.forParameters [("linecount", none), ("fill_with", some .null)])
    | throw .unfit
  let allRows : Work (List Item × Option Fault) := do
    let (items, failure) ← takeLazily item
    let cells ← heap
    let found ← lift (rows size cells [] items)
    let filled ← found.mapM fun row => do
      if filler matches .null then return row
      if ← lift (ordered cells .lt (.nat row.length) size) then
        return row ++ List.replicate ((← lift (TextMethod.wholeOf size)) - row.length).toNat filler
      else return row
    return (← (if failure.isSome then filled.dropLast else filled).mapM newList, failure)
  streamed allRows fun row => return [row]

/-- Items in so many columns of about equal length, the longer ones first. -/
def columns {α : Type} (size longer : Nat) (filler : Option α) : (count : Nat) → List α →
    List (List α)
  | 0, _ => []
  | count + 1, items =>
    let length := if 0 < longer then size + 1 else size
    let column := items.take length ++ (if longer = 0 then filler.toList else [])
    column :: columns size (longer - 1) filler count (items.drop length)

/-- The items in so many columns. -/
def runSlice (item : Item) (g : Given) : Work Item := do
  let [count, filler] ← lift (g.forParameters [("slices", none), ("fill_with", some .null)])
    | throw .unfit
  let allColumns : Work (List Item × Option Fault) := do
    let items ← takeAll item
    let count ← lift (TextMethod.wholeOf count)
    if count = 0 then throw .divisionByZero
    if count < 0 then return ([], none)
    let filler := if filler matches .null then none else some filler
    let n := count.toNat
    return (← (columns (items.length / n) (items.length % n) filler n items).mapM newList, none)
  streamed allColumns fun column => return [column]

end Apply

end Template

end Scaffold
