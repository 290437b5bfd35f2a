import Scaffold.Template.Item.Member

/-!
# Keys of items

Many filters look at an attribute of each item instead of the item itself, and compare texts
without regard to case. An attribute is a path of names and positions with dots between them.
-/

namespace Scaffold

namespace Template

/-- What holds where a filter is applied. -/
structure Setting where
  /-- What is not there may not be used. -/
  strict : Bool
  /-- Output is escaped. -/
  escapes : Bool
deriving DecidableEq, Repr

/-- A step with its fault kept as an answer. -/
def attempt {α : Type} (step : Work α) : Work (Except Fault α) := fun s =>
  match step s with
  | .ok a s => .ok (.ok a) s
  | .error f s => .ok (.error f) s

namespace Apply

open Item

/-- The steps of a path. -/
def pathOf : Item → Except Fault (List Item)
  | .null => .ok []
  | .text _ s => (Text.splitOnChar '.' s).mapM fun part =>
      if TextMethod.allOf Text.isDigitLike part then
        match Text.readDigits? 10 0 false part with
        | some n => .ok (.nat n)
        | none => .error .badValue
      else .ok (.plain part)
  | item => .ok [item]

/-- What a path leads to. Where there is nothing it is the default, if there is one. -/
def follow (set : Setting) (path : List Item) (default : Item) (item : Item) : Work Item :=
  path.foldlM (fun item step => do
    let found ← indexed set.strict item step
    return if found.isUndefined && !(default matches .null) then default else found) item

/-- An item without regard to case. -/
def folded : Item → Item
  | .text safe s => .text safe (Text.lower s)
  | item => item

/-- What an item is compared by. -/
structure Key where
  path : List Item
  default : Item
  /-- Case counts. -/
  keepsCase : Bool

/-- The key for an attribute as it is given. -/
def Key.ofAttribute (attr keepsCase default : Item) : Work Key := do
  return ⟨← lift (pathOf attr), default, ← isTrue keepsCase⟩

/-- The key of an item. -/
def Key.of (k : Key) (set : Setting) (item : Item) : Work Item := do
  let found ← follow set k.path k.default item
  return if k.keepsCase then found else folded found

/-- The keys for attributes with commas between them. -/
def Key.ofAttributes (attributes keepsCase : Item) : Work (List Key) := do
  match attributes with
  | .text safe s => (Text.splitOnChar ',' s).mapM fun part =>
      Key.ofAttribute (.text safe part) keepsCase .null
  | item => return [← Key.ofAttribute item keepsCase .null]

/-- An item as text that stays safe if it is. -/
def softText (item : Item) : Work (Bool × Text) := do
  match item with
  | .text safe s => return (safe, s)
  | item => return (false, ← writtenText item)

/-- Whether an item is safe as it is. -/
def isMarkup (item : Item) : Work Bool := do
  match item with
  | .text safe _ => return safe
  | .ref a => return ((← cellAt a) matches .module _)
  | _ => return false

/-- Items made one by one, for whoever takes them. What goes wrong is kept for the one who takes
the item that it concerns. -/
def streamed (items : Work (List Item × Option Fault)) (f : Item → Work (List Item)) :
    Work Item := do
  match ← attempt items with
  | .error fault => refTo (.stream [] (some fault))
  | .ok (items, failure) =>
    let (found, failure) ← go failure items
    refTo (.stream found failure)
where
  /-- The items made from the first ones, up to the first fault. -/
  go (failure : Option Fault) : List Item → Work (List Item × Option Fault)
    | [] => return ([], failure)
    | item :: items => do
      match ← attempt (f item) with
      | .error fault => return ([], some fault)
      | .ok made =>
        let (rest, failure) ← go failure items
        return (made ++ rest, failure)

end Apply

end Template

end Scaffold
