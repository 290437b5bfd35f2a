import Scaffold.Calendar
import Scaffold.Template.Tree
import Scaffold.Value.Basic

/-!
# Items

What names stand for while a template is rendered. Plain items are their own value. Whatever can
change, or is told apart from an equal one, is a cell, and the item is a reference to it.

## Implementation notes

The cells live in one growing array. Nothing is ever taken out of it, so a reference that was
made stays good.
-/

namespace Scaffold

namespace Template

open Calendar

/-- Why rendering ends early. The first four are faults of the template as such. -/
inductive Fault
  /-- The source cannot be understood. -/
  | malformed
  /-- Something that is not there is used. -/
  | undefined
  /-- A filter or a statement is used in a way that it refuses. -/
  | misuse
  /-- There is no such template. -/
  | missingTemplate
  /-- An operation is applied to something it is not for. -/
  | unfit
  /-- An operation is applied to a value that it has no answer for. -/
  | badValue
  | divisionByZero
  | tooLarge
  | noKey
  | noIndex
  | noMember
  /-- A limit that is promised does not hold. -/
  | broken
  /-- Something cannot be made from what is given. -/
  | refused
  /-- The same keyword twice in one call. -/
  | repeatedName
  /-- Rendering nests too deep. -/
  | tooDeep
deriving DecidableEq, Repr

/-- Whether a fault is one of the template as such. -/
def Fault.isOfTemplate : Fault → Bool
  | malformed | undefined | misuse | missingTemplate => true
  | _ => false

/-- What of a mapping is looked at. -/
inductive Aspect
  | keys
  | values
  | entries
deriving DecidableEq, Repr

/-- A function that every template can call. -/
inductive Builtin
  | range
  | dict
  | lipsum
  | cycler
  | joiner
  | namespace
deriving DecidableEq, Repr

/-- A place in the array of cells. -/
abbrev Address := Nat

/-- An item. -/
inductive Item where
  /-- Nothing at all. When it is strict, hardly anything may be done with it. -/
  | undefined (strict : Bool)
  | null
  | bool (b : Bool)
  | int (n : Int)
  | float (x : Float)
  /-- A text. A safe one is not escaped again. -/
  | text (safe : Bool) (s : Text)
  | bytes (b : List UInt8)
  | date (d : Date)
  | moment (t : Moment)
  /-- A tuple. A group has names for its two items. -/
  | tuple (isGroup : Bool) (items : List Item)
  | range (start stop step : Int)
  | aspect (a : Aspect) (of : Address)
  | builtin (f : Builtin)
  /-- A member of an item that waits to be called. -/
  | method (self : Item) (name : Text)
  /-- The blocks of the template being rendered. The name is that of the template that asks. -/
  | self (name : Option Text) (context : Address)
  /-- A block, as far up as the depth tells. -/
  | block (name : Text) (depth : Nat) (context : Address)
  | ref (cell : Address)
deriving Repr, Inhabited

namespace Item

/-- A text that is not safe. -/
abbrev plain (s : Text) : Item := .text false s

/-- A number as an item. -/
abbrev nat (n : Nat) : Item := .int n

/-- A tuple without names. -/
abbrev pair (a b : Item) : Item := .tuple false [a, b]

/-- A truth value or an integer as an integer. -/
def integer? : Item → Option Int
  | bool b => some (if b then 1 else 0)
  | int n => some n
  | _ => none

/-- Whether an item is a number. -/
def isNumber : Item → Bool
  | bool _ | int _ | float _ => true
  | _ => false

/-- Whether there is nothing. -/
def isUndefined : Item → Bool
  | undefined _ => true
  | _ => false

/-- The characters of a text. -/
def text? : Item → Option Text
  | text _ s => some s
  | _ => none

/-- The items of a tuple. -/
def tuple? : Item → Option (List Item)
  | tuple _ items => some items
  | _ => none

end Item

/-! ### Cells -/

/-- Where statements and expressions are carried out. -/
structure Place where
  /-- The scopes, innermost first. -/
  scopes : List Address
  context : Address
  /-- The cell that tells whether this template is based on another one. -/
  base : Address
  /-- Names bound here can be seen from outside the template. -/
  isTop : Bool
  /-- Output is dropped once the template is based on another one. -/
  isGuarded : Bool
  /-- Output is escaped. -/
  escapes : Bool
deriving DecidableEq, Repr, Inhabited

/-- A block of a template, ready to be rendered. -/
structure BlockCode where
  body : List Stmt
  /-- What the block is handed besides the context. -/
  usesSuper : Bool
  /-- The name of its template, if the block asks for its template. -/
  self : Option (Option Text)
deriving Repr, Inhabited

/-- A template, ready to be rendered. -/
structure Template where
  body : List Stmt
  /-- The name of the template, if its body asks for it. -/
  self : Option (Option Text)
  blocks : List (Text × BlockCode)
deriving Repr, Inhabited

/-- A template as the base of the one with the name. What asks it for its template gets that one. -/
def Template.asBaseOf (name : Option Text) (t : Template) : Template where
  body := t.body
  self := t.self.map fun _ => name
  blocks := t.blocks.map fun (n, code) => (n, { code with self := code.self.map fun _ => name })

/-- The names of a template that are not in any of its scopes. -/
structure Context where
  /-- What the template has bound at its top. -/
  bound : List (Text × Item)
  /-- Which of them can be seen from outside. -/
  exported : List Text
  /-- What the template was handed. -/
  given : List (Text × Item)
  /-- The blocks under each name, that of the innermost template first. -/
  blocks : List (Text × List BlockCode)
deriving Repr, Inhabited

/-- A scope with values. -/
structure Frame where
  values : List (Text × Option Item)
  /-- The names that are bound in it. -/
  bound : List Text
deriving Repr, Inhabited

/-- A routine of a template. -/
structure Routine where
  name : Option Text
  parameters : List Text
  defaults : List Expr
  body : List Stmt
  /-- What it takes besides its parameters. -/
  takesCaller : Bool
  takesNamed : Bool
  takesRest : Bool
  /-- Where it was made. -/
  place : Place
deriving Repr, Inhabited

/-- What a loop goes over. -/
structure LoopSource where
  /-- Items that were not looked at yet. -/
  pending : List Item
  /-- What comes after them. -/
  failure : Option Fault
  /-- How many items there are, where this can be told without going over them. -/
  size : Option Nat
  /-- Items are left out unless they pass the test. -/
  test : Option (Target × Expr × Place)
deriving Repr, Inhabited

/-- A loop as its body sees it. -/
structure LoopState where
  source : LoopSource
  /-- The turn, from zero on. -/
  index : Nat
  previous : Option Item
  current : Item
  /-- The next item, if it was looked at already. -/
  ahead : Option Item
  /-- How many turns there are, once it is known. -/
  length : Option Nat
  /-- What the loop was last asked to compare with. -/
  lastSeen : Option (List Item)
  depth : Nat
  /-- The statement and its place, for a loop that can be called. -/
  again : Option (Stmt × Place)
deriving Repr, Inhabited

/-- The names of a template as a thing of its own. -/
structure Module where
  name : Text
  exports : List (Text × Item)
  output : Text
deriving Repr, Inhabited

/-- What can change or is told apart from its equals. -/
inductive Cell where
  | list (items : List Item)
  | map (entries : List (Item × Item))
  | set (items : List Item)
  /-- Items that can be taken once, and what comes after them. -/
  | stream (rest : List Item) (failure : Option Fault)
  | space (fields : List (Item × Item))
  | cycler (items : List Item) (position : Nat)
  | joiner (separator : Item) (isUsed : Bool)
  | loop (state : LoopState)
  | routine (r : Routine)
  | module (m : Module)
  | frame (f : Frame)
  | context (c : Context)
  /-- Whether the base of a template is known by now. -/
  | base (isKnown : Bool)
deriving Repr, Inhabited

/-- What rendering works on. -/
structure State where
  cells : Array Cell
  /-- Output, last piece first. -/
  out : List Text
  /-- Modules that were made already. -/
  modules : List (Text × Address)
  /-- The templates that were looked up. -/
  loaded : List Text
deriving Inhabited

/-- A step of rendering. What it has done before a fault is not undone. -/
abbrev Work (α : Type) := EStateM Fault State α

/-- A new cell. -/
def allocate (c : Cell) : Work Address := fun s =>
  .ok s.cells.size { s with cells := s.cells.push c }

/-- A new cell, as an item. -/
def refTo (c : Cell) : Work Item := do return .ref (← allocate c)

/-- The cell at an address. -/
def cellAt (a : Address) : Work Cell := fun s =>
  match s.cells[a]? with
  | some c => .ok c s
  | none => .error .broken s

/-- Put a cell at an address that was allocated before. -/
def setCell (a : Address) (c : Cell) : Work Unit := fun s =>
  .ok () { s with cells := s.cells.setIfInBounds a c }

/-- The cells as they are. -/
def heap : Work (Array Cell) := fun s => .ok s.cells s

/-- An item to an answer that may be a fault. -/
def lift {α : Type} (e : Except Fault α) : Work α := fun s =>
  match e with
  | .ok a => .ok a s
  | .error f => .error f s

/-- A new list. -/
def newList (items : List Item) : Work Item := refTo (.list items)

/-- A new mapping. -/
def newMap (entries : List (Item × Item)) : Work Item := refTo (.map entries)

/-- Items that can be taken once. -/
def newStream (items : List Item) : Work Item := refTo (.stream items none)

end Template

end Scaffold
