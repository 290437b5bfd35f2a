import Scaffold.Template.Item.Percent

/-!
# Operators

What the arithmetic signs do with items that are not numbers: texts and sequences are put
together and repeated, and a percent sign fills the places of a text. Where a safe text meets
another text, the other one is escaped.
-/

namespace Scaffold

namespace Template

namespace Item

/-- Two texts put together. -/
def addTexts (safeA : Bool) (a : Text) (safeB : Bool) (b : Text) : Item :=
  if safeA || safeB then
    text true ((if safeA then a else escaped a) ++ (if safeB then b else escaped b))
  else plain (a ++ b)

/-- Something so many times in a row. -/
def repeated {α : Type} (n : Int) (xs : List α) : List α := (List.replicate n.toNat xs).flatten

/-- An item so many times in a row. -/
def repeatItem (item : Item) (n : Int) : Work Item := do
  match item with
  | text safe s => return text safe (repeated n s)
  | bytes b => return bytes (repeated n b)
  | tuple _ items => return tuple false (repeated n items)
  | ref a => match ← cellAt a with
    | .list items => newList (repeated n items)
    | _ => throw .unfit
  | _ => throw .unfit

/-- The items that fill the places of a safe text, escaped where they are text. -/
def escapedItem (cells : Array Cell) : Item → Except Fault Item
  | text false s => .ok (text true (escaped s))
  | tuple g items => do
    return tuple g (← items.mapM fun i => match i with
      | text false s => .ok (text true (escaped s))
      | ref a => do return text true (← escapedText cells (ref a))
      | i => .ok i)
  | item => .ok item

/-- An operation on two numbers. -/
def onTwo (f : Number → Number → Except Fault Item) (a b : Item) : Work Item :=
  match a.number?, b.number? with
  | some x, some y => lift (f x y)
  | _, _ => throw .unfit

/-- The sum of two items. -/
def add (a b : Item) : Work Item := do
  match a, b with
  | text safeA s, text safeB t => return addTexts safeA s safeB t
  | bytes s, bytes t => return bytes (s ++ t)
  | tuple _ s, tuple _ t => return tuple false (s ++ t)
  | ref x, ref y => match ← cellAt x, ← cellAt y with
    | .list s, .list t => newList (s ++ t)
    | _, _ => throw .unfit
  | a, b => onTwo addNumbers a b

/-- The product of two items. -/
def mul (a b : Item) : Work Item := do
  match a.number?, b.number? with
  | some x, some y => lift (mulNumbers x y)
  | _, some (.whole n) => repeatItem a n
  | some (.whole n), _ => repeatItem b n
  | _, _ => throw .unfit

/-- The remainder of two items, or a text with its places filled. -/
def mod (a b : Item) : Work Item := do
  match a with
  | text false s => return plain (← lift (percent (← heap) s b))
  | text true s =>
    let cells ← heap
    return text true (← lift (percent cells s (← lift (escapedItem cells b))))
  | a => onTwo modNumbers a b

/-- The difference of two items. -/
def sub (a b : Item) : Work Item := do
  match a, b with
  | ref x, ref y => match ← cellAt x, ← cellAt y with
    | .set s, .set t =>
      let cells ← heap
      let kept ← s.filterM fun i => do return !(← lift (isAmong (equal cells) i t))
      refTo (.set kept)
    | _, _ => throw .unfit
  | a, b => onTwo subNumbers a b

/-- Whether an operation fills the places of a text. -/
def fillsPlaces (op : Binary) (a : Item) : Bool :=
  match op, a with
  | .mod, text .. => true
  | _, _ => false

/-- An operation on two items. -/
def operate (op : Binary) (a b : Item) : Work Item := do
  if a.isUndefined || (b.isUndefined && !fillsPlaces op a) then throw .undefined
  match op with
  | .add => add a b
  | .sub => sub a b
  | .mul => mul a b
  | .div => onTwo divNumbers a b
  | .floorDiv => onTwo floorDivNumbers a b
  | .mod => mod a b
  | .pow => onTwo powNumbers a b

/-- An operation on one item. -/
def operateOn (op : Unary) (a : Item) : Work Item := do
  match op with
  | .not => return bool !(← isTrue a)
  | .minus => match a.number? with
    | some n => return negNumber n
    | none => throw (if a.isUndefined then .undefined else .unfit)
  | .plus => match a.number? with
    | some n => return posNumber n
    | none => throw (if a.isUndefined then .undefined else .unfit)

/-- Texts of items, one after the other. Among safe ones the others are escaped if output is. -/
def joinTexts (escapes : Bool) (items : List Item) : Work Item := do
  let cells ← heap
  if escapes && items.any fun i => i matches text true _ then
    return text true (← items.mapM fun i => lift (i.escapedText cells)).flatten
  else return plain (← items.mapM fun i => lift (i.written cells)).flatten

end Item

end Template

end Scaffold
