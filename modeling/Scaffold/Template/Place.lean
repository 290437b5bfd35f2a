import Scaffold.Template.Item.Sequence
import Scaffold.Template.Scope

/-!
# Names and output at a place

Reading and binding names where a statement stands, and putting out text there. A name belongs to
the innermost scope that has it. What is bound at the top of a template can also be seen from its
blocks and from other templates.
-/

namespace Scaffold

namespace Template

/-! ### Output -/

/-- Put out a text. -/
def put (s : Text) : Work Unit := fun state =>
  .ok () { state with out := s :: state.out }

/-- What a step puts out, kept back. -/
def captured (step : Work Unit) : Work Text := fun state =>
  match step { state with out := [] } with
  | .ok () after => .ok after.out.reverse.flatten { after with out := state.out }
  | .error f after => .error f { after with out := state.out }

/-- Whether the template at a place is known to be based on another one by now. -/
def isBased (p : Place) : Work Bool := do
  match ← cellAt p.base with
  | .base isKnown => return isKnown
  | _ => throw .broken

/-- Put out a text, unless the template at the place is based on another one. -/
def putGuarded (p : Place) (s : Text) : Work Unit := do
  if p.isGuarded && (← isBased p) then return () else put s

/-! ### Contexts -/

/-- The context at an address. -/
def contextAt (a : Address) : Work Context := do
  match ← cellAt a with
  | .context c => return c
  | _ => throw .broken

namespace Context

/-- What a name stands for. -/
def resolve? (c : Context) (name : Text) : Option Item :=
  c.bound.lookup name <|> c.given.lookup name

/-- All names and what they stand for. Of the same names the first one counts. -/
def all (c : Context) : List (Text × Item) := c.bound ++ c.given

/-- Bind a name. -/
def bind (c : Context) (name : Text) (item : Item) (isExported : Bool) : Context :=
  let others := c.exported.filter (· ≠ name)
  { c with
    bound := (name, item) :: c.bound.filter fun (n, _) => n ≠ name
    exported := if isExported then name :: others else others }

/-- What can be seen from outside. -/
def exports (c : Context) : List (Text × Item) :=
  c.bound.filter fun (name, _) => c.exported.contains name

/-- The context of a template that is handed names. -/
def ofTemplate (t : Template) (given : List (Text × Item)) : Context :=
  ⟨[], [], given, t.blocks.map fun (name, code) => (name, [code])⟩

/-- The blocks with those of a base behind them. -/
def addBase (c : Context) (base : Template) : Context :=
  let united := base.blocks.foldl (fun blocks (name, code) => addBlock name code blocks) c.blocks
  { c with blocks := united }
where
  /-- The blocks with one more under a name. -/
  addBlock (name : Text) (code : BlockCode) :
      List (Text × List BlockCode) → List (Text × List BlockCode)
    | [] => [(name, [code])]
    | (n, codes) :: rest =>
      if n = name then (n, codes ++ [code]) :: rest else (n, codes) :: addBlock name code rest

end Context

/-! ### Frames -/

/-- The frames of the scopes at a place, innermost first. -/
def framesOf (p : Place) : Work (List Frame) :=
  p.scopes.mapM fun a => do
    match ← cellAt a with
    | .frame f => return f
    | _ => throw .broken

/-- Whether one of some frames has a name. -/
def hasName (frames : List Frame) (name : Text) : Bool :=
  frames.any fun f => f.values.any fun (n, _) => n = name

/-- The value of a name in the first of some frames that has it. -/
def valueIn (frames : List Frame) (name : Text) : Option (Option Item) :=
  frames.findSome? fun f => f.values.lookup name

/-- The first value of a name of a scope. -/
def firstValue (frames : List Frame) (c : Context) (handed : List (Text × Item)) :
    Text × Origin → Text × Option Item
  | (name, .parameter) => (name, handed.lookup name)
  | (name, .context) => (name, c.resolve? name)
  | (name, .outer) => (name, (valueIn frames name).join)
  | (name, .nothing) => (name, none)

/-- A scope with its first values. -/
def newFrame (p : Place) (scope : (Text → Bool) → Scope) (handed : List (Text × Item)) :
    Work Frame := do
  let frames ← framesOf p
  let c ← contextAt p.context
  let s := scope (hasName frames)
  return ⟨s.own.map (firstValue frames c handed), s.bound⟩

/-- A place inside a scope. -/
def enter (p : Place) (scope : (Text → Bool) → Scope) (handed : List (Text × Item)) :
    Work Place := do
  let a ← allocate (.frame (← newFrame p scope handed))
  return { p with scopes := a :: p.scopes, isTop := false }

/-- What a name stands for at a place. -/
def readName (strict : Bool) (p : Place) (name : Text) : Work Item := do
  match valueIn (← framesOf p) name with
  | some (some item) => return item
  | some none => return .undefined strict
  | none => throw .broken

/-- The names that are bound at a place, with their values. -/
def localNames (p : Place) : Work (List (Text × Item)) := do
  let frames ← framesOf p
  return (frames.flatMap Frame.bound).filterMap fun name =>
    (valueIn frames name).join.map fun item => (name, item)

/-- A value for a name among values. -/
def setValue (name : Text) (item : Item) :
    List (Text × Option Item) → List (Text × Option Item)
  | [] => [(name, some item)]
  | (n, v) :: rest => if n = name then (n, some item) :: rest else (n, v) :: setValue name item rest

/-- Bind a name in the innermost scope, and at the top of a template in its context as well. -/
def bindName (p : Place) (name : Text) (item : Item) (isExported : Bool) : Work Unit := do
  match p.scopes with
  | [] => throw .broken
  | a :: _ => match ← cellAt a with
    | .frame f => setCell a (.frame { f with values := setValue name item f.values })
    | _ => throw .broken
  if p.isTop then
    let c ← contextAt p.context
    setCell p.context (.context (c.bind name item (isExported && name.head? ≠ some '_')))

/-- The namespace that a name stands for. -/
def spaceNamed (p : Place) (name : Text) : Work (Address × List (Item × Item)) := do
  match (valueIn (← framesOf p) name).join with
  | some (.ref a) => match ← cellAt a with
    | .space fields => return (a, fields)
    | _ => throw .misuse
  | _ => throw .misuse

mutual

/-- Bind a target. -/
def bindTarget (p : Place) (item : Item) : Target → Work Unit
  | .name s => bindName p s item true
  | .field object member => do
    let (a, fields) ← spaceNamed p object
    setCell a (.space (setField (.plain member) fields))
  | .tuple targets => do
    let items ← takeAll item
    if items.length ≠ targets.length then throw .badValue
    bindTargets p items targets
where
  /-- The fields with one of them set. -/
  setField (name : Item) : List (Item × Item) → List (Item × Item)
    | [] => [(name, item)]
    | (k, v) :: rest =>
      if k.text? = name.text? then (k, item) :: rest else (k, v) :: setField name rest

/-- Bind targets, each to one of the items. -/
def bindTargets (p : Place) : List Item → List Target → Work Unit
  | item :: items, t :: ts => do
    bindTarget p item t
    bindTargets p items ts
  | _, _ => return ()

end

end Template

end Scaffold
