import Scaffold.Template.Item.Number

/-!
# Comparing items

Equality is defined for all items, order only within numbers, texts, sequences, sets and times.
Numbers are compared by their value whatever their kind, sequences item by item.
-/

namespace Scaffold

namespace Template

namespace Item

open Calendar

/-- How deep compared items may nest. -/
def compareDepth : Nat := 400

/-- How many items a range has. -/
def rangeSize (start stop step : Int) : Nat :=
  if 0 < step then if start < stop then ((stop - start - 1) / step + 1).toNat else 0
  else if step < 0 then if stop < start then ((start - stop - 1) / -step + 1).toNat else 0
  else 0

/-- The items of a range. -/
def rangeItems (start stop step : Int) : List Item :=
  (List.range (rangeSize start stop step)).map fun (i : Nat) => int (start + step * i)

/-- Whether an item is true as a condition. -/
def truth (cells : Array Cell) (item : Item) : Except Fault Bool :=
  match item with
  | undefined strict => if strict then .error .undefined else .ok false
  | null => .ok false
  | bool b => .ok b
  | int n => .ok (n != 0)
  | float x => .ok (x != 0.0)
  | text _ s => .ok !s.isEmpty
  | bytes b => .ok !b.isEmpty
  | tuple _ items => .ok !items.isEmpty
  | range start stop step => .ok (rangeSize start stop step != 0)
  | aspect _ of => match cells[of]? with
    | some (.map es) => .ok !es.isEmpty
    | _ => .error .broken
  | ref a => match cells[a]? with
    | some (.list items) | some (.set items) => .ok !items.isEmpty
    | some (.map es) => .ok !es.isEmpty
    | _ => .ok true
  | _ => .ok true

/-- Whether two items are one and the same. -/
def isSame : Item → Item → Bool
  | undefined a, undefined b => a == b
  | null, null => true
  | bool a, bool b => a == b
  | int a, int b => a == b
  | float x, float y => x.toBits == y.toBits
  | text a s, text b t => a == b && s == t
  | bytes a, bytes b => a == b
  | builtin f, builtin g => f == g
  | ref a, ref b => a == b
  | tuple _ [], tuple _ [] => true
  | _, _ => false

/-- Whether pairs of items are all equal, up to the first that is not. -/
def allEqual (equal : Item → Item → Except Fault Bool) :
    List Item → List Item → Except Fault Bool
  | [], [] => .ok true
  | a :: as, b :: bs => do
    if isSame a b then allEqual equal as bs
    else if ← equal a b then allEqual equal as bs
    else return false
  | _, _ => .ok false

/-- Whether an item is among others. -/
def isAmong (equal : Item → Item → Except Fault Bool) (item : Item) :
    List Item → Except Fault Bool
  | [] => .ok false
  | a :: as => do
    if isSame a item then return true
    else if ← equal a item then return true
    else isAmong equal item as

/-- The value under a key. -/
def lookup? (equal : Item → Item → Except Fault Bool) (key : Item) :
    List (Item × Item) → Except Fault (Option Item)
  | [] => .ok none
  | (k, v) :: es => do
    if isSame k key then return some v
    else if ← equal k key then return some v
    else lookup? equal key es

/-- Whether two items are equal. -/
def equalWithin (cells : Array Cell) : (fuel : Nat) → Item → Item → Except Fault Bool
  | 0, _, _ => .error .tooDeep
  | fuel + 1, a, b =>
    let equal := fun a b => equalWithin cells fuel a b
    let within (as bs : List Item) : Except Fault Bool :=
      if as.length ≠ bs.length then .ok false
      else as.foldlM (fun all a => do if all then isAmong equal a bs else return false) true
    match a, b with
    | undefined true, _ | _, undefined true => .error .undefined
    | undefined false, undefined false => .ok true
    | null, null => .ok true
    | text _ s, text _ t => .ok (s == t)
    | bytes s, bytes t => .ok (s == t)
    | date d, date e => .ok (d == e)
    | moment s, moment t => .ok (s.zone.isSome == t.zone.isSome && s.instant == t.instant)
    | tuple _ as, tuple _ bs => allEqual equal as bs
    | range s t u, range v w x => .ok <| rangeItems s t u |>.map integer? |> fun ns =>
        decide (ns = (rangeItems v w x).map integer?)
    | builtin f, builtin g => .ok (f == g)
    | aspect .keys m, aspect .keys n | aspect .entries m, aspect .entries n =>
      match cells[m]?, cells[n]? with
      | some (.map es), some (.map fs) =>
        if a matches aspect .keys _ then within (es.map (·.1)) (fs.map (·.1))
        else within (es.map fun (k, v) => pair k v) (fs.map fun (k, v) => pair k v)
      | _, _ => .error .broken
    | ref m, ref n =>
      if m = n then .ok true
      else match cells[m]?, cells[n]? with
        | some (.list as), some (.list bs) => allEqual equal as bs
        | some (.set as), some (.set bs) => within as bs
        | some (.map es), some (.map fs) =>
          if es.length ≠ fs.length then .ok false
          else es.foldlM (fun all (k, v) => do
            if !all then return false
            match ← lookup? equal k fs with
            | some w => if isSame v w then return true else equal v w
            | none => return false) true
        | _, _ => .ok false
    | a, b => match a.number?, b.number? with
      | some x, some y => .ok (compareNumbers? x y == some .eq)
      | _, _ => .ok false

/-- Whether two items are equal. -/
def equal (cells : Array Cell) (a b : Item) : Except Fault Bool :=
  equalWithin cells compareDepth a b

/-! ### Order -/

/-- The order of two texts by code points. -/
def compareTexts : Text → Text → Ordering
  | [], [] => .eq
  | [], _ :: _ => .lt
  | _ :: _, [] => .gt
  | a :: s, b :: t =>
    if a.toNat < b.toNat then .lt else if b.toNat < a.toNat then .gt else compareTexts s t

/-- Whether an order is one that a comparison asks for. -/
def meets (c : Comparison) (o : Ordering) : Bool :=
  match c with
  | .lt => o == .lt
  | .le => o != .gt
  | .gt => o == .gt
  | .ge => o != .lt
  | .eq => o == .eq
  | .ne => o != .eq
  | _ => false

/-- Compare sequences by the first items that differ, or else by their lengths. -/
def orderedItems (equal ordered : Item → Item → Except Fault Bool) (c : Comparison) :
    List Item → List Item → Except Fault Bool
  | [], [] => .ok (meets c .eq)
  | [], _ :: _ => .ok (meets c .lt)
  | _ :: _, [] => .ok (meets c .gt)
  | a :: as, b :: bs => do
    if isSame a b then orderedItems equal ordered c as bs
    else if ← equal a b then orderedItems equal ordered c as bs
    else ordered a b

/-- The order of two days. -/
def compareDates (d e : Date) : Ordering :=
  compare ((d.year * 13 + d.month) * 32 + d.day) ((e.year * 13 + e.month) * 32 + e.day)

/-- Whether two items are in the order that a comparison asks for. -/
def orderedWithin (cells : Array Cell) (c : Comparison) :
    (fuel : Nat) → Item → Item → Except Fault Bool
  | 0, _, _ => .error .tooDeep
  | fuel + 1, a, b =>
    let equal := fun a b => equalWithin cells fuel a b
    let ordered := fun a b => orderedWithin cells c fuel a b
    let partOf (as bs : List Item) : Except Fault Bool :=
      as.foldlM (fun all a => do if all then isAmong equal a bs else return false) true
    match a, b with
    | undefined _, _ | _, undefined _ => .error .undefined
    | text _ s, text _ t => .ok (meets c (compareTexts s t))
    | bytes s, bytes t =>
      let chars (b : List UInt8) : Text := b.map fun u => Char.ofNat u.toNat
      .ok (meets c (compareTexts (chars s) (chars t)))
    | date d, date e => .ok (meets c (compareDates d e))
    | moment s, moment t =>
      if s.zone.isSome == t.zone.isSome then .ok (meets c (compare s.instant t.instant))
      else .error .unfit
    | tuple _ as, tuple _ bs => orderedItems equal ordered c as bs
    | ref m, ref n => match cells[m]?, cells[n]? with
      | some (.list as), some (.list bs) => orderedItems equal ordered c as bs
      | some (.set as), some (.set bs) => do
        match c with
        | .le => partOf as bs
        | .ge => partOf bs as
        | .lt => return as.length < bs.length && (← partOf as bs)
        | _ => return bs.length < as.length && (← partOf bs as)
      | _, _ => .error .unfit
    | a, b => match a.number?, b.number? with
      | some x, some y => .ok ((compareNumbers? x y).any (meets c))
      | _, _ => .error .unfit

/-- Whether two items are in the order that a comparison asks for. -/
def ordered (cells : Array Cell) (c : Comparison) (a b : Item) : Except Fault Bool :=
  orderedWithin cells c compareDepth a b

/-- Whether an item can be a key. -/
def checkKey (cells : Array Cell) : Item → Except Fault Unit
  | undefined strict => if strict then .error .undefined else .ok ()
  | tuple _ items => checkAll items
  | ref a => match cells[a]? with
    | some (.list _) | some (.map _) | some (.set _) => .error .unfit
    | _ => .ok ()
  | _ => .ok ()
where
  /-- Whether items can be in a key. -/
  checkAll : List Item → Except Fault Unit
    | [] => .ok ()
    | i :: is => do
      checkKey cells i
      checkAll is

/-! ### Sorting -/

/-- Put a key with its item behind those that are not greater. -/
def insertSorted (less : Item → Item → Except Fault Bool) (key item : Item) :
    List (Item × Item) → Except Fault (List (Item × Item))
  | [] => .ok [(key, item)]
  | (k, i) :: rest => do
    if ← less key k then return (key, item) :: (k, i) :: rest
    else return (k, i) :: (← insertSorted less key item rest)

/-- Keys with their items, in order. Those with equal keys keep their order. -/
def sorted (less : Item → Item → Except Fault Bool) (pairs : List (Item × Item)) :
    Except Fault (List (Item × Item)) :=
  pairs.foldlM (fun sofar (key, item) => insertSorted less key item sofar) []

/-- The same, from the greatest to the least. -/
def sortedDown (less : Item → Item → Except Fault Bool) (pairs : List (Item × Item)) :
    Except Fault (List (Item × Item)) := do
  return (← sorted less pairs.reverse).reverse

end Item

end Template

end Scaffold
