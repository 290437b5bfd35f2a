import Scaffold.Template.Item.Compare
import Scaffold.Template.Item.Written

/-!
# Items with items in them

Going over the items of an item, counting them, looking for one, and taking one or a part by
position. Positions may be counted from the end with negative numbers.
-/

namespace Scaffold

namespace Template

namespace Item

/-- The items of an item that can be gone over, and what comes after them. -/
def contents (cells : Array Cell) : Item → Except Fault (List Item × Option Fault)
  | undefined strict => if strict then .error .undefined else .ok ([], none)
  | text safe s => .ok (s.map fun c => text safe [c], none)
  | bytes b => .ok (b.map fun u => int u.toNat, none)
  | tuple _ items => .ok (items, none)
  | range start stop step => .ok (rangeItems start stop step, none)
  | aspect a of => match cells[of]? with
    | some (.map es) => .ok (aspectItems a es, none)
    | _ => .error .broken
  | ref a => match cells[a]? with
    | some (.list items) | some (.set items) => .ok (items, none)
    | some (.map es) => .ok (es.map (·.1), none)
    | some (.stream rest failure) => .ok (rest, failure)
    | _ => .error .unfit
  | _ => .error .unfit

/-- How many items there are in an item. -/
def count (cells : Array Cell) : Item → Except Fault Nat
  | undefined strict => if strict then .error .undefined else .ok 0
  | text _ s => .ok s.length
  | bytes b => .ok b.length
  | tuple _ items => .ok items.length
  | range start stop step => .ok (rangeSize start stop step)
  | aspect _ of => match cells[of]? with
    | some (.map es) => .ok es.length
    | _ => .error .broken
  | ref a => match cells[a]? with
    | some (.list items) | some (.set items) => .ok items.length
    | some (.map es) => .ok es.length
    | some (.loop l) => .ok (loopLength l)
    | _ => .error .unfit
  | _ => .error .unfit

/-! ### Positions -/

/-- The index that a position stands for. -/
def indexOf? (size : Nat) (position : Int) : Option Nat :=
  let i := if position < 0 then position + size else position
  if 0 ≤ i && i < size then some i.toNat else none

/-- A bound of a slice as an index. -/
def boundOf (size : Nat) (low high : Int) (position : Int) : Int :=
  let i := if position < 0 then position + size else position
  if i < low then low else if high < i then high else i

/-- The indices of a slice. -/
def sliceIndices (size : Nat) (start stop : Option Int) (step : Int) : List Nat :=
  let (low, high) : Int × Int := if step < 0 then (-1, (size : Int) - 1) else (0, size)
  let first := match start with
    | some i => boundOf size low high i
    | none => if step < 0 then high else low
  let last := match stop with
    | some i => boundOf size low high i
    | none => if step < 0 then low else high
  (rangeItems first last step).filterMap fun i => i.integer?.map Int.toNat

/-- The elements at indices. -/
def pick {α : Type} (xs : List α) (indices : List Nat) : List α :=
  let xs := xs.toArray
  indices.filterMap fun i => xs[i]?

/-- A bound of a slice as it is given. -/
def sliceBound : Item → Except Fault (Option Int)
  | null => .ok none
  | item => match item.integer? with
    | some n => .ok (some n)
    | none => .error .unfit

/-- The bounds and the step of a slice as they are given. -/
def sliceBounds (start stop step : Item) : Except Fault (Option Int × Option Int × Int) := do
  let start ← sliceBound start
  let stop ← sliceBound stop
  let step := (← sliceBound step).getD 1
  if step = 0 then throw .badValue
  return (start, stop, step)

/-- The range that a slice of a range is. -/
def sliceRange (start stop step : Int) (a b : Option Int) (c : Int) : Item :=
  let size := rangeSize start stop step
  let (low, high) : Int × Int := if c < 0 then (-1, (size : Int) - 1) else (0, size)
  let first := match a with
    | some i => boundOf size low high i
    | none => if c < 0 then high else low
  let last := match b with
    | some i => boundOf size low high i
    | none => if c < 0 then low else high
  range (start + first * step) (start + last * step) (step * c)

/-- A part of an item. -/
def slice (item start stop step : Item) : Work Item := do
  match item with
  | undefined _ => throw .undefined
  | text safe s =>
    let (a, b, c) ← lift (sliceBounds start stop step)
    return text safe (pick s (sliceIndices s.length a b c))
  | bytes u =>
    let (a, b, c) ← lift (sliceBounds start stop step)
    return bytes (pick u (sliceIndices u.length a b c))
  | tuple _ items =>
    let (a, b, c) ← lift (sliceBounds start stop step)
    return tuple false (pick items (sliceIndices items.length a b c))
  | range x y z =>
    let (a, b, c) ← lift (sliceBounds start stop step)
    return sliceRange x y z a b c
  | ref a => match ← cellAt a with
    | .list items =>
      let (a, b, c) ← lift (sliceBounds start stop step)
      newList (pick items (sliceIndices items.length a b c))
    | _ => throw .unfit
  | _ => throw .unfit

/-- The item at a position or under a key, if there is one. -/
def at? (cells : Array Cell) (item key : Item) : Except Fault (Option Item) :=
  let positioned (items : List Item) : Option Item :=
    key.integer?.bind fun i => (indexOf? items.length i).bind fun i => items[i]?
  match item with
  | undefined _ => .error .undefined
  | text safe s => .ok <| key.integer?.bind fun i =>
      (indexOf? s.length i).bind fun i => s[i]?.map fun c => text safe [c]
  | bytes b => .ok (positioned (b.map fun u => int u.toNat))
  | tuple _ items => .ok (positioned items)
  | range start stop step => .ok <| key.integer?.bind fun i =>
      (indexOf? (rangeSize start stop step) i).map fun i => int (start + step * i)
  | ref a => match cells[a]? with
    | some (.list items) => .ok (positioned items)
    | some (.map es) => match checkKey cells key with
      | .ok () => lookup? (equal cells) key es
      | .error .undefined => .error .undefined
      | .error _ => .ok none
    | _ => .ok none
  | _ => .ok none

/-! ### Membership -/

/-- Whether an item is in another, given what the other holds. -/
def isInside (cells : Array Cell) (item whole : Item) : Except Fault Bool :=
  match whole with
  | undefined strict => if strict then .error .undefined else .ok false
  | text _ s => match item with
    | text _ part => .ok (Text.hasText s part)
    | _ => .error .unfit
  | aspect .keys of => match cells[of]? with
    | some (.map es) => do
      checkKey cells item
      isAmong (equal cells) item (es.map (·.1))
    | _ => .error .broken
  | ref a => match cells[a]? with
    | some (.map es) => do
      checkKey cells item
      isAmong (equal cells) item (es.map (·.1))
    | some (.set items) => do
      checkKey cells item
      isAmong (equal cells) item items
    | _ => do isAmong (equal cells) item (← contents cells whole).1
  | whole => do isAmong (equal cells) item (← contents cells whole).1

end Item

/-! ### Taking items -/

/-- All items of an item. Those of a stream are gone afterwards. -/
def takeAll (item : Item) : Work (List Item) := do
  let (items, failure) ← lift (item.contents (← heap))
  if let .ref a := item then
    if (← cellAt a) matches .stream .. then setCell a (.stream [] none)
  match failure with
  | none => return items
  | some f => throw f

/-- All items of an item and what comes after them. Those of a stream are gone afterwards. -/
def takeLazily (item : Item) : Work (List Item × Option Fault) := do
  let (items, failure) ← lift (item.contents (← heap))
  if let .ref a := item then
    if (← cellAt a) matches .stream .. then setCell a (.stream [] none)
  return (items, failure)

/-- The first item, if there is one. A stream loses only that one. -/
def takeFirst (item : Item) : Work (Option Item) := do
  let (items, failure) ← lift (item.contents (← heap))
  match items, failure with
  | [], none => return none
  | [], some f => throw f
  | first :: rest, failure =>
    if let .ref a := item then
      if (← cellAt a) matches .stream .. then setCell a (.stream rest failure)
    return some first

/-- What a stream still holds behind an item that was looked for. -/
def leftBehind (equal : Item → Item → Except Fault Bool) (item : Item) :
    List Item → Except Fault (List Item)
  | [] => .ok []
  | a :: as => do
    if Item.isSame a item then return as
    else if ← equal a item then return as
    else leftBehind equal item as

/-- Whether an item is in another. A stream loses all items up to the one that is found. -/
def isIn (item whole : Item) : Work Bool := do
  let cells ← heap
  let found ← lift (item.isInside cells whole)
  if let .ref a := whole then
    if let .stream rest failure ← cellAt a then
      setCell a (.stream (← lift (leftBehind (Item.equal cells) item rest)) failure)
      if !found then
        if let some f := failure then throw f
  return found

/-- Whether an item is true as a condition. -/
def isTrue (item : Item) : Work Bool := do lift (item.truth (← heap))

/-- Whether two items are equal. -/
def areEqual (a b : Item) : Work Bool := do lift (Item.equal (← heap) a b)

/-- Whether two items compare as asked. -/
def compareItems (c : Comparison) (a b : Item) : Work Bool := do
  match c with
  | .eq => areEqual a b
  | .ne => return !(← areEqual a b)
  | .isIn => isIn a b
  | .notIn => return !(← isIn a b)
  | c => lift (Item.ordered (← heap) c a b)

end Template

end Scaffold
