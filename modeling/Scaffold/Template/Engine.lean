import Scaffold.Template.Place
import Scaffold.Template.Item.Member

/-!
# Bodies that are carried out later

Routines, blocks, loops that can be called and other templates have bodies which are not part of
the tree at hand. An engine carries them out; each level of nesting has an engine of its own, with
one level less below it.
-/

namespace Scaffold

namespace Template

/-- What carries out bodies that are not part of the tree at hand. -/
structure Engine where
  /-- What is not there may not be used. -/
  strict : Bool
  /-- The template with a name. -/
  find : Text → Except Fault Template
  /-- The item that an expression stands for. -/
  eval : Place → Expr → Work Item
  /-- Carry out statements. -/
  exec : Place → List Stmt → Work Unit
  /-- Carry out a loop over an item, so many levels deep. -/
  loop : Place → Stmt → Item → Nat → Work Unit
  /-- Carry out a template in a context, which is that of the template with the name. -/
  run : Option Text → Template → Address → Work Unit

/-- The engine with no level left. -/
def Engine.exhausted (strict : Bool) (find : Text → Except Fault Template) : Engine :=
  ⟨strict, find, fun _ _ => throw .tooDeep, fun _ _ => throw .tooDeep,
    fun _ _ _ _ => throw .tooDeep, fun _ _ _ => throw .tooDeep⟩

variable (eng : Engine)

/-! ### Blocks -/

/-- What a block is handed. -/
def blockHanded (name : Text) (depth : Nat) (context : Address) (count : Nat) (code : BlockCode) :
    List (Text × Item) :=
  let above := if depth + 1 < count then .block name (depth + 1) context
    else .undefined eng.strict
  (match code.self with
    | some template => [(Text.of "self", .self template context)]
    | none => []) ++
  (if code.usesSuper then [(Text.of "super", above)] else [])

/-- Carry out a block, as far up as the depth tells. -/
def runBlock (name : Text) (depth : Nat) (context : Address) : Work Unit := do
  let codes := ((← contextAt context).blocks.lookup name).getD []
  match codes[depth]? with
  | none => throw .noKey
  | some code =>
    let handed := blockHanded eng name depth context codes.length code
    let outside : Place := ⟨[], context, ← allocate (.base false), false, false, false⟩
    let p ← enter outside (fun outer => Scope.ofBody outer (handed.map (·.1)) code.body) handed
    eng.exec p code.body

/-! ### Routines -/

/-- The name of the named arguments that no parameter takes. -/
def namedName : Text := Text.of "kwargs"

/-- The name of the positional arguments that no parameter takes. -/
def restName : Text := Text.of "varargs"

/-- The name of the body of a call. -/
def bodyName : Text := Text.of "caller"

namespace Routine

/-- A routine made at a place. -/
def ofSignature (name : Option Text) (sig : Signature) (body : List Stmt) (p : Place) : Routine :=
  let has (n : Text) : Bool := sig.parameters.contains n
  ⟨name, sig.parameters, sig.defaults, body, readsFirst bodyName body,
    readsFirst namedName body && !has namedName, readsFirst restName body && !has restName,
    { p with isTop := false, isGuarded := false }⟩

/-- Whether the body of a call is handed in besides the parameters. -/
def handsCaller (r : Routine) : Bool := r.takesCaller && !r.parameters.contains bodyName

/-- The names that are handed in besides the parameters. -/
def extras (r : Routine) : List Text :=
  (if r.handsCaller then [bodyName] else []) ++ (if r.takesNamed then [namedName] else []) ++
    (if r.takesRest then [restName] else [])

/-- The arguments by parameter, and the named ones that are left. -/
def assigned : List Text → List Item → List (Text × Item) →
    List (Text × Item) × List (Text × Item)
  | [], _, named => ([], named)
  | n :: ns, i :: is, named =>
    let (rest, named) := assigned ns is named
    ((n, i) :: rest, named)
  | n :: ns, [], named =>
    let (rest, left) := assigned ns [] (named.filter fun (m, _) => m ≠ n)
    match named.lookup n with
    | some i => ((n, i) :: rest, left)
    | none => (rest, left)

/-- What the body of a routine is handed for the arguments of a call. -/
def handed (strict : Bool) (r : Routine) (g : Given) : Work (List (Text × Item)) := do
  let (arguments, named) := assigned r.parameters g.positional g.named
  let (caller, named) := if r.handsCaller then
      match named.lookup bodyName with
      | none | some .null => ([(bodyName, .undefined strict)], named.filter (·.1 ≠ bodyName))
      | some c => ([(bodyName, c)], named.filter (·.1 ≠ bodyName))
    else ([], named)
  let byName ← if r.takesNamed then do
      pure [(namedName, ← newMap (named.map fun (k, v) => (.plain k, v)))]
    else if named.isEmpty then pure [] else throw .unfit
  let rest := g.positional.drop r.parameters.length
  let byPosition ← if r.takesRest then pure [(restName, .tuple false rest)]
    else if rest.isEmpty then pure [] else throw .unfit
  return arguments ++ caller ++ byName ++ byPosition

/-- The default of each parameter that has one. -/
def defaultOf (r : Routine) : List (Text × Option Expr) :=
  let required := r.parameters.length - r.defaults.length
  (r.parameters.take required).map (·, none) ++
    (r.parameters.drop required).zip (r.defaults.map some)

end Routine

/-- Call a routine. A parameter that is not given gets its default, which may use the parameters
before it. -/
def callRoutine (escapes : Bool) (r : Routine) (g : Given) : Work Item := do
  let handed ← r.handed eng.strict g
  let scope (outer : Text → Bool) : Scope :=
    Scope.ofRoutine outer ⟨r.parameters, r.defaults⟩ r.extras r.body
  let p ← enter r.place scope handed
  for (name, default) in r.defaultOf do
    if (handed.lookup name).isNone then
      match default with
      | some e => bindName p name (← eng.eval p e) false
      | none => bindName p name (.undefined eng.strict) false
  return .text escapes (← captured (eng.exec p r.body))

/-! ### Loops -/

/-- Whether an item passes the test of a loop. -/
def passes (test : Option (Target × Expr × Place)) (item : Item) : Work Bool := do
  match test with
  | none => return true
  | some (target, e, p) =>
    let p ← enter p (fun outer => Scope.ofLoopTest outer target e) []
    bindTarget p item target
    isTrue (← eng.eval p e)

/-- The first of some items that passes a test, and the items behind it. -/
def firstPassing (test : Option (Target × Expr × Place)) (failure : Option Fault) :
    List Item → Work (Option Item × List Item)
  | [] => match failure with
    | some f => throw f
    | none => return (none, [])
  | item :: items => do
    if ← passes eng test item then return (some item, items)
    else firstPassing test failure items

/-- The loop at an address. -/
def loopAt (a : Address) : Work LoopState := do
  match ← cellAt a with
  | .loop l => return l
  | _ => throw .broken

/-- The item of the next turn, if there is one. It is not taken. -/
def peek (a : Address) : Work (Option Item) := do
  let l ← loopAt a
  match l.ahead with
  | some item => return some item
  | none =>
    let (item, rest) ← firstPassing eng l.source.test l.source.failure l.source.pending
    setCell a (.loop { l with source := { l.source with pending := rest }, ahead := item })
    return item

/-- Take the item of the next turn, if there is one. -/
def advance (a : Address) (isFirst : Bool) : Work (Option Item) := do
  match ← peek eng a with
  | none => return none
  | some item =>
    let l ← loopAt a
    setCell a (.loop { l with
      ahead := none
      index := if isFirst then 0 else l.index + 1
      previous := if isFirst then none else some l.current
      current := item })
    return some item

/-- How many turns a loop has. Items that were not tested yet are tested. -/
def lengthOf (a : Address) : Work Nat := do
  let l ← loopAt a
  match l.length, l.source.size with
  | some n, _ => return n
  | none, some n =>
    setCell a (.loop { l with length := some n })
    return n
  | none, none =>
    let passing ← l.source.pending.filterM (passes eng l.source.test)
    if let some f := l.source.failure then throw f
    let n := l.index + 1 + passing.length + (if l.ahead.isSome then 1 else 0)
    setCell a (.loop { l with
      source := { l.source with pending := passing, test := none }, length := some n })
    return n

/-- A member of a loop that depends on the turns to come or gone. -/
def loopMember? (a : Address) (name : Text) : Work (Option Item) := do
  let is (word : String) : Bool := name = Text.of word
  let l ← loopAt a
  if is "length" then return some (.nat (← lengthOf eng a))
  else if is "revindex" then return some (.int ((← lengthOf eng a) - l.index))
  else if is "revindex0" then return some (.int ((← lengthOf eng a) - l.index - 1))
  else if is "last" then return some (.bool (← peek eng a).isNone)
  else if is "nextitem" then return some ((← peek eng a).getD (.undefined eng.strict))
  else if is "previtem" then return some (l.previous.getD (.undefined eng.strict))
  else return none

/-- Carry out the turns of a loop, at most so many. Tells whether there was one. -/
def turns (a : Address) (turn : Item → Work Unit) : (most : Nat) → (isFirst : Bool) → Work Bool
  | 0, isFirst => return !isFirst
  | most + 1, isFirst => do
    match ← advance eng a isFirst with
    | none => return !isFirst
    | some item =>
      turn item
      turns a turn most false

/-! ### Calls -/

/-- Call an item. -/
def callItem (p : Place) (callee : Item) (g : Given) : Work Item := do
  match callee with
  | .undefined _ => throw .undefined
  | .builtin f => Item.callBuiltin f g
  | .method self name => Item.callMember self name g
  | .block name depth context =>
    let _ ← lift (g.forParameters [])
    return .text p.escapes (← captured (runBlock eng name depth context))
  | .ref a => match ← cellAt a with
    | .routine r => callRoutine eng p.escapes r g
    | .joiner separator isUsed =>
      let _ ← lift (g.forParameters [])
      if isUsed then return separator
      setCell a (.joiner separator true)
      return .plain []
    | .loop l =>
      let [items] ← lift (g.forParameters [("iterable", none)]) | throw .unfit
      match l.again with
      | some (stmt, place) =>
        return .text p.escapes (← captured (eng.loop place stmt items (l.depth + 1)))
      | none => throw .unfit
    | _ => throw .unfit
  | _ => throw .unfit

end Template

end Scaffold
