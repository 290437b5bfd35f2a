import Scaffold.Template.Filter.Basic
import Scaffold.Template.Item.Member

/-!
# Tests

What `is` asks about an item. Most tests look at the item alone; some compare it with another.
-/

namespace Scaffold

namespace Template

/-- A test. -/
inductive Test
  | boolean
  | callable
  | compares (c : Comparison)
  | defined
  | divisibleBy
  | escaped
  | even
  | false
  | filter
  | float
  | integer
  | iterable
  | lower
  | mapping
  | none
  | number
  | odd
  | sameAs
  | sequence
  | string
  | test
  | true
  | undefined
  | upper
deriving DecidableEq, Repr

namespace Test

/-- The tests by name. -/
def named : List (String × Test) :=
  [("boolean", boolean), ("callable", callable), ("defined", defined),
    ("divisibleby", divisibleBy), ("escaped", escaped), ("even", even), ("false", Test.false),
    ("filter", filter), ("float", float), ("integer", integer), ("iterable", iterable),
    ("lower", lower), ("mapping", mapping), ("none", Test.none), ("number", number), ("odd", odd),
    ("sameas", sameAs), ("sequence", sequence), ("string", string), ("test", test),
    ("true", Test.true), ("undefined", Test.undefined), ("upper", upper), ("in", compares .isIn),
    ("==", compares .eq), ("eq", compares .eq), ("equalto", compares .eq), ("!=", compares .ne),
    ("ne", compares .ne), (">", compares .gt), ("gt", compares .gt), ("greaterthan", compares .gt),
    (">=", compares .ge), ("ge", compares .ge), ("<", compares .lt), ("lt", compares .lt),
    ("lessthan", compares .lt), ("<=", compares .le), ("le", compares .le)]

/-- The test with a name. -/
def ofName? (name : Text) : Option Test :=
  (named.find? fun (n, _) => Text.of n = name).map (·.2)

/-- Whether an item can be called. -/
def isCallable (item : Item) : Work Bool := do
  match item with
  | .undefined _ | .builtin _ | .method .. | .block .. => return Bool.true
  | .ref a => match ← cellAt a with
    | .routine _ | .joiner .. | .loop _ => return Bool.true
    | _ => return Bool.false
  | _ => return Bool.false

/-- Whether an item has a length and positions or keys. -/
def isSequence (item : Item) : Work Bool := do
  match item with
  | .undefined strict => return !strict
  | .text .. | .bytes _ | .tuple .. | .range .. => return Bool.true
  | .ref a => match ← cellAt a with
    | .list _ | .map _ => return Bool.true
    | _ => return Bool.false
  | _ => return Bool.false

/-- Whether an item can be gone over. -/
def isIterable (item : Item) : Work Bool := do
  match item with
  | .ref a => if (← cellAt a) matches .loop _ then return Bool.true
  | _ => pure ()
  match item.contents (← heap) with
  | .ok _ => return Bool.true
  | .error .undefined => throw .undefined
  | .error _ => return Bool.false

/-- Whether an item divided by a number leaves a rest. -/
def leaves (item divisor : Item) (rest : Int) : Work Bool := do
  areEqual (← Item.operate .mod item divisor) (.int rest)

/-- The answer of a test that looks at the item alone. -/
def alone (t : Test) (item : Item) : Work Bool := do
  match t with
  | boolean => return (item matches .bool _)
  | callable => isCallable item
  | defined => return !item.isUndefined
  | escaped => match item with
    | .text safe _ => return safe
    | .ref a => return ((← cellAt a) matches .module _)
    | _ => return Bool.false
  | even => leaves item (.int 2) 0
  | Test.false => return (item matches .bool Bool.false)
  | filter => match item with
    | .text _ s => return (Filter.ofName? s).isSome
    | item =>
      lift (item.checkKey (← heap))
      return Bool.false
  | float => return (item matches .float _)
  | integer => return (item matches .int _)
  | iterable => isIterable item
  | lower => return Item.TextMethod.noneOf Text.isCapital (← writtenText item)
  | mapping => match item with
    | .ref a => return ((← cellAt a) matches .map _)
    | _ => return Bool.false
  | Test.none => return (item matches .null)
  | number => return item.isNumber
  | odd => leaves item (.int 2) 1
  | sequence => isSequence item
  | string => return (item matches .text ..)
  | test => match item with
    | .text _ s => return (ofName? s).isSome
    | item =>
      lift (item.checkKey (← heap))
      return Bool.false
  | Test.true => return (item matches .bool Bool.true)
  | Test.undefined => return item.isUndefined
  | upper => return Item.TextMethod.noneOf Text.isSmall (← writtenText item)
  | _ => throw .unfit

/-- The answer of a test. -/
def run (t : Test) (item : Item) (g : Given) : Work Bool := do
  let other (name : String) : Work Item := do
    match ← lift (g.forParameters [(name, .none)]) with
    | [found] => return found
    | _ => throw .unfit
  match t with
  | compares c => compareItems c item (← other "b")
  | divisibleBy => leaves item (← other "num") 0
  | sameAs => return item.isSame (← other "other")
  | t =>
    let _ ← lift (g.forParameters [])
    t.alone item

end Test

end Template

end Scaffold
