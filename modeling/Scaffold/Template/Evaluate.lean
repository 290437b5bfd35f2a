import Scaffold.Template.Engine
import Scaffold.Template.Filter.Run

/-!
# Evaluating expressions

What an expression stands for at a place. Operands are evaluated from left to right, each of them
once. The second operand of *and* and *or*, the branch of a choice that is not taken, and what
follows a comparison that does not hold are not evaluated at all.
-/

namespace Scaffold

namespace Template

variable (eng : Engine) (p : Place)

/-- Where filters are applied at a place. -/
def settingAt : Setting := ⟨eng.strict, p.escapes⟩

/-- What stands behind a dot. -/
def memberOf (item : Item) (name : Text) : Work Item := do
  if let .ref a := item then
    if (← cellAt a) matches .loop _ then
      if let some found ← loopMember? eng a name then return found
  Item.dotted eng.strict item name

/-- What stands in square brackets. -/
def entryOf (item key : Item) : Work Item := do
  if let .ref a := item then
    if (← cellAt a) matches .loop _ then
      if let .text _ name := key then
        if let some found ← loopMember? eng a name then return found
  Item.indexed eng.strict item key

/-- What a filter makes of an item. One that nobody knows takes no names. -/
def applyFilter (name : Text) (item : Item) (g : Given) : Work Item :=
  match Filter.ofName? name with
  | some f => f.run (settingAt eng p) item g
  | none => throw (if g.named.isEmpty then .misuse else .unfit)

/-- The answer of a test. One that nobody knows takes no names. -/
def applyTest (name : Text) (item : Item) (g : Given) : Work Item := do
  match Test.ofName? name with
  | some t => return .bool (← t.run item g)
  | none => throw (if g.named.isEmpty then .misuse else .unfit)

/-- The named arguments that a mapping is taken apart into. -/
def namesOfMapping (item : Item) : Work (List (Text × Item)) := do
  match item with
  | .undefined _ => throw .undefined
  | .ref a => match ← cellAt a with
    | .map entries => entries.mapM fun
      | (.text _ name, v) => pure (name, v)
      | _ => throw .unfit
    | _ => throw .unfit
  | _ => throw .unfit

/-- Arguments with one more by name. -/
def Given.addNamed (g : Given) (name : Text) (item : Item) : Work Given :=
  if g.named.any fun (n, _) => n = name then throw .unfit
  else return { g with named := g.named ++ [(name, item)] }

mutual

/-- The item that an expression stands for. A filter without a subject is applied to what is
held. -/
def eval (held : Item) : Expr → Work Item
  | .null => return .null
  | .bool b => return .bool b
  | .integer n => return .nat n
  | .float x => return .float x
  | .string s => return .plain s
  | .name s => readName eng.strict p s
  | .list es => do newList (← evalAll held es)
  | .tuple es => return .tuple false (← evalAll held es)
  | .map es => do newMap (← Item.putEntries [] (← evalEntries held es))
  | .unary op e => do Item.operateOn op (← eval held e)
  | .binary op a b => do
    let x ← eval held a
    Item.operate op x (← eval held b)
  | .both a b => do
    let x ← eval held a
    if ← isTrue x then eval held b else return x
  | .either a b => do
    let x ← eval held a
    if ← isTrue x then return x else eval held b
  | .joined es => do Item.joinTexts p.escapes (← evalAll held es)
  | .compare e es => do compareAll held (← eval held e) es
  | .choice test yes no => do
    if ← isTrue (← eval held test) then eval held yes
    else return (← evalOption held no).getD (.undefined false)
  | .member e name => do memberOf eng (← eval held e) name
  | .item e (.slice a b c) => do
    let x ← eval held e
    let start ← evalOption held a
    let stop ← evalOption held b
    let step ← evalOption held c
    Item.slice x (start.getD .null) (stop.getD .null) (step.getD .null)
  | .item e index => do
    let x ← eval held e
    entryOf eng x (← eval held index)
  | .slice .. => throw .broken
  | .call f args => do
    let callee ← eval held f
    callItem eng p callee (← evalArguments held args)
  | .filter subject name args => do
    let x := (← evalOption held subject).getD held
    applyFilter eng p name x (← evalArguments held args)
  | .test subject name args => do
    let x ← eval held subject
    applyTest name x (← evalArguments held args)

/-- The items that expressions stand for. -/
def evalAll (held : Item) : List Expr → Work (List Item)
  | [] => return []
  | e :: es => do
    let x ← eval held e
    return x :: (← evalAll held es)

/-- The item that an optional expression stands for. -/
def evalOption (held : Item) : Option Expr → Work (Option Item)
  | none => return none
  | some e => some <$> eval held e

/-- The entries that pairs of expressions stand for. -/
def evalEntries (held : Item) : List (Expr × Expr) → Work (List (Item × Item))
  | [] => return []
  | (k, v) :: es => do
    let key ← eval held k
    let value ← eval held v
    return (key, value) :: (← evalEntries held es)

/-- Compare an item with the next operand, and so on while the comparisons hold. -/
def compareAll (held : Item) (x : Item) : List (Comparison × Expr) → Work Item
  | [] => return .bool true
  | (c, e) :: es => do
    let y ← eval held e
    if ← compareItems c x y then compareAll held y es else return .bool false

/-- The items that an argument adds to others. -/
def evalArgument (held : Item) (g : Given) : Argument Expr → Work Given
  | .positional e => do return { g with positional := g.positional ++ [← eval held e] }
  | .named name e => do g.addNamed name (← eval held e)
  | .spread e => do
    return { g with positional := g.positional ++ (← takeAll (← eval held e)) }
  | .spreadNamed e => do
    (← namesOfMapping (← eval held e)).foldlM (fun g (n, i) => g.addNamed n i) g

/-- The items that arguments stand for, behind those that are there. -/
def evalArgumentsOnto (held : Item) (g : Given) : List (Argument Expr) → Work Given
  | [] => return g
  | a :: args => do evalArgumentsOnto held (← evalArgument held g a) args

/-- The items that arguments stand for. -/
def evalArguments (held : Item) (args : List (Argument Expr)) : Work Given :=
  evalArgumentsOnto held ⟨[], []⟩ args

end

end Template

end Scaffold
