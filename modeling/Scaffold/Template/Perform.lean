import Scaffold.Template.Evaluate
import Scaffold.Template.Check

/-!
# Carrying out statements

What statements put out and bind at a place. The output of a template that is based on another
one is dropped: its blocks take the place of those of its base, and the base is carried out in
its stead. A base is named at the top of a template, or in a choice there, and nowhere else.
-/

namespace Scaffold

namespace Template

variable (eng : Engine) (p : Place)

/-- Print an item. -/
def printItem (item : Item) : Work Unit := do
  let cells ← heap
  put (← lift (if p.escapes then item.escapedText cells else item.written cells))

/-- Put out what has to be a text already. -/
def putText (item : Item) : Work Unit :=
  match item with
  | .text _ s => put s
  | _ => throw .unfit

/-! ### Other templates -/

/-- The template that an item names. -/
def templateNamed (item : Item) : Work (Text × Template) := do
  match item with
  | .text _ name =>
    let t ← lift (eng.find name)
    modify fun state => { state with loaded := name :: state.loaded }
    return (name, t)
  | item =>
    if item.isUndefined then throw .undefined
    lift (item.checkKey (← heap))
    throw .missingTemplate

/-- The first of some templates that there is. -/
def firstTemplate : List Item → Work (Text × Template)
  | [] => throw .missingTemplate
  | item :: items => do
    match ← attempt (templateNamed eng item) with
    | .ok found => return found
    | .error .missingTemplate | .error .undefined => firstTemplate items
    | .error f => throw f

/-- The template to include: the one that an item names, or the first one there is of several. -/
def templateAmong (item : Item) : Work (Text × Template) := do
  match item with
  | .text .. => templateNamed eng item
  | item =>
    if item.isUndefined then throw .undefined
    if ← isTrue item then firstTemplate eng (← takeAll item) else throw .missingTemplate

/-- All names at a place with what they stand for. -/
def namesAt : Work (List (Text × Item)) := do
  return (← localNames p) ++ (← contextAt p.context).all

/-- The names that every template has. -/
def commonNames : List (Text × Item) :=
  [("range", Builtin.range), ("dict", .dict), ("lipsum", .lipsum), ("cycler", .cycler),
    ("joiner", .joiner), ("namespace", .namespace)].map fun (n, f) => (Text.of n, .builtin f)

/-- A template as a thing of its own, made from what it is handed. -/
def newModule (name : Text) (t : Template) (given : List (Text × Item)) : Work Address := do
  let context ← allocate (.context (.ofTemplate t given))
  let output ← captured (eng.run (some name) t context)
  allocate (.module ⟨name, (← contextAt context).exports, output⟩)

/-- A template as a thing of its own that is handed nothing. It is made once and kept. -/
def sharedModule (name : Text) (t : Template) : Work Address := do
  match (← get).modules.lookup name with
  | some a => return a
  | none =>
    let a ← newModule eng name t commonNames
    modify fun state => { state with modules := (name, a) :: state.modules }
    return a

/-- The template that an item names as a thing of its own. -/
def importedModule (item : Item) (withContext : Bool) : Work Address := do
  let (name, t) ← templateNamed eng item
  if withContext then newModule eng name t (← namesAt p) else sharedModule eng name t

/-- The module at an address. -/
def moduleAt (a : Address) : Work Module := do
  match ← cellAt a with
  | .module m => return m
  | _ => throw .broken

/-- Carry out another template here. -/
def includeTemplate (item : Item) (ignoreMissing withContext : Bool) : Work Unit := do
  match ← attempt (templateAmong eng item) with
  | .error .missingTemplate => if ignoreMissing then return () else throw .missingTemplate
  | .error f => throw f
  | .ok (name, t) =>
    if withContext then
      eng.run (some name) t (← allocate (.context (.ofTemplate t (← namesAt p))))
    else put (← moduleAt (← sharedModule eng name t)).output

/-- Base the template at a place, which has the name, on the one that an item names. -/
def inheritFrom (owner : Option Text) (item : Item) : Work Template := do
  let (_, t) ← templateNamed eng item
  let base := t.asBaseOf owner
  let c ← contextAt p.context
  setCell p.context (.context (c.addBase base))
  setCell p.base (.base true)
  return base

/-- Carry out a block at its place in a template. -/
def blockHere (name : Text) (isScoped isRequired : Bool) : Work Unit := do
  if p.isTop && (← isBased p) then return ()
  let c ← contextAt p.context
  let context ← if isScoped then
      allocate (.context ⟨[], [], ← namesAt p, c.blocks⟩)
    else pure p.context
  if isRequired && ((c.blocks.lookup name).getD []).length ≤ 1 then throw .misuse
  runBlock eng name 0 context

/-! ### Loops -/

/-- How many items an item has, if this can be told without going over them. -/
def sizeOf? (item : Item) : Work (Option Nat) := do
  match item with
  | .ref a => if (← cellAt a) matches .stream .. | .loop _ then return none
  | _ => pure ()
  return (item.count (← heap)).toOption

/-- The loop over an item before its first turn. -/
def newLoop (stmt : Stmt) (item : Item) (depth : Nat) : Work LoopState := do
  let size ← sizeOf? item
  let (items, failure) ← takeLazily item
  let (test, isRecursive) := match stmt with
    | .loop target _ test isRecursive _ _ => (test.map fun e => (target, e, p), isRecursive)
    | _ => (none, false)
  return {
    source := ⟨items, failure, if test.isSome then none else size, test⟩
    index := 0
    previous := none
    current := .null
    ahead := none
    length := none
    lastSeen := none
    depth := depth
    again := if isRecursive then some (stmt, p) else none }

/-- Whether the body of a loop may look at its loop. -/
def looksAtLoop (isRecursive : Bool) (body orElse : List Stmt) : Bool :=
  isRecursive || readsFirst loopName body ||
    (Stmt.blocksOfAll body ++ Stmt.blocksOfAll orElse).any Block.isScoped

/-- Carry out a loop over an item. -/
def loopOver (stmt : Stmt) (item : Item) (depth : Nat) (body orElse : Place → Work Unit) :
    Work Unit := do
  match stmt with
  | .loop target _ _ isRecursive statements others =>
    let l ← newLoop p stmt item depth
    let a ← allocate (.loop l)
    let handed := if looksAtLoop isRecursive statements others then [(loopName, .ref a)] else []
    let scope (outer : Text → Bool) : Scope :=
      Scope.ofLoop outer (handed.map (·.1)) target statements
    let frame ← allocate (.frame ⟨[], []⟩)
    let inner : Place := { p with scopes := frame :: p.scopes, isTop := false }
    let ran ← turns eng a (fun item => do
      setCell frame (.frame (← newFrame p scope handed))
      bindTarget inner item target
      body inner) (l.source.pending.length + 1) true
    if !ran && !others.isEmpty then
      orElse (← enter p (fun outer => Scope.ofBody outer [] others) [])
  | _ => throw .broken

/-! ### Statements -/

/-- Whether something can be bound to a target. Fields have to be those of namespaces. -/
def checkTarget (t : Target) : Work Unit :=
  t.objects.forM fun name => do
    let _ ← spaceNamed p name

mutual

/-- Carry out a statement. -/
def perform (p : Place) : Stmt → Work Unit
  | .text s => putGuarded p s
  | .print e => do
    if p.isGuarded && (← isBased p) then return ()
    printItem p (← eval eng p .null e)
  | .loop target source test isRecursive body orElse => do
    let item ← eval eng p .null source
    loopOver eng p (.loop target source test isRecursive body orElse) item 0
      (fun p => performAll p body) (fun p => performAll p orElse)
  | .choice test body others orElse => do
    if ← isTrue (← eval eng p .null test) then performAll p body
    else if !(← performFirst p others) then performAll p orElse
  | .assign target value => do
    checkTarget p target
    bindTarget p (← eval eng p .null value) target
  | .capture target filters body => do
    let inner ← enter { p with isGuarded := false } (fun outer => Scope.ofBody outer [] body) []
    let s ← captured (performAll inner body)
    let held : Item := .text p.escapes s
    let item ← match filters with
      | none => pure held
      | some e => do
        let x ← eval eng inner held e
        if p.escapes then pure (.text true (← writtenText x)) else pure x
    bindTarget p item target
  | .routine name signature body => do
    let item ← refTo (.routine (.ofSignature (some name) signature body p))
    bindName p name item true
  | .callWith signature callee arguments body => do
    let caller ← refTo (.routine (.ofSignature none signature body p))
    let f ← eval eng p .null callee
    let given ← evalArguments eng p .null arguments
    putText (← callItem eng p f (← given.addNamed callerName caller))
  | .filtered filters body => do
    let inner ← enter p (fun outer => Scope.ofFiltered outer filters body) []
    let s ← captured (performAll inner body)
    putText (← eval eng inner (.text p.escapes s) filters)
  | .binding targets values body => do
    let items ← evalAll eng p .null values
    let inner ← enter p (fun outer => Scope.ofBinding outer targets body) []
    bindTargets inner items targets
    performAll inner body
  | .escaping switch body => do
    let inner ← enter p (fun outer => Scope.ofEscaping outer switch body) []
    let escapes ← isTrue (← eval eng inner .null switch)
    performAll { inner with escapes := escapes } body
  | .block name isScoped isRequired _ => blockHere eng p name isScoped isRequired
  | .inherit _ => throw .malformed
  | .inclusion template ignoreMissing withContext => do
    includeTemplate eng p (← eval eng p .null template) ignoreMissing withContext
  | .moduleAs template name withContext => do
    let a ← importedModule eng p (← eval eng p .null template) withContext
    bindName p name (.ref a) false
  | .namesFrom template names withContext => do
    let a ← importedModule eng p (← eval eng p .null template) withContext
    let m ← moduleAt a
    names.forM fun (name, own) =>
      bindName p own ((m.exports.lookup name).getD (.undefined eng.strict)) false

/-- Carry out statements. -/
def performAll (p : Place) : List Stmt → Work Unit
  | [] => return ()
  | s :: ss => do
    perform p s
    performAll p ss

/-- Carry out the first branch whose condition holds. Tells whether there is one. -/
def performFirst (p : Place) : List (Expr × List Stmt) → Work Bool
  | [] => return false
  | (test, body) :: rest => do
    if ← isTrue (← eval eng p .null test) then
      performAll p body
      return true
    else performFirst p rest

end

/-! ### The top of a template -/

mutual

/-- Carry out a statement at the top of the template with the name, or in a choice there. Gives the
base of the template if the statement names it. There is one base at most. -/
def performTop (owner : Option Text) : Stmt → Work (Option Template)
  | .inherit template => do
    if ← isBased p then throw .misuse
    return some (← inheritFrom eng p owner (← eval eng p .null template))
  | .choice test body others orElse => do
    if ← isTrue (← eval eng p .null test) then performTops owner body
    else match ← performFirstTop owner others with
      | some base => return base
      | none => performTops owner orElse
  | stmt => do
    perform eng p stmt
    return none

/-- Carry out statements at the top. -/
def performTops (owner : Option Text) : List Stmt → Work (Option Template)
  | [] => return none
  | s :: ss => do
    let base ← performTop owner s
    return base.or (← performTops owner ss)

/-- Carry out the first branch at the top whose condition holds, if there is one. -/
def performFirstTop (owner : Option Text) :
    List (Expr × List Stmt) → Work (Option (Option Template))
  | [] => return none
  | (test, body) :: rest => do
    if ← isTrue (← eval eng p .null test) then return some (← performTops owner body)
    else performFirstTop owner rest

end

/-! ### Templates -/

/-- Carry out a template in a context, which is that of the template with the name, and then the
one it is based on if there is one. -/
def runTemplate (owner : Option Text) (t : Template) (context : Address) : Work Unit := do
  let handed := match t.self with
    | some name => [(Text.of "self", .self name context)]
    | none => []
  let outside : Place := ⟨[], context, ← allocate (.base false), false, true, false⟩
  let p ← enter outside (fun outer => Scope.ofBody outer (handed.map (·.1)) t.body) handed
  match ← performTops eng { p with isTop := true } owner t.body with
  | some base => eng.run owner base context
  | none => return ()

/-- The engine with so many levels. -/
def Engine.ofDepth (strict : Bool) (find : Text → Except Fault Template) : Nat → Engine
  | 0 => .exhausted strict find
  | n + 1 =>
    let below := ofDepth strict find n
    { strict := strict
      find := find
      eval := fun p e => Template.eval below p .null e
      exec := performAll below
      loop := fun p stmt item depth => match stmt with
        | .loop _ _ _ _ body orElse =>
          loopOver below p stmt item depth (fun p => performAll below p body)
            (fun p => performAll below p orElse)
        | _ => throw .broken
      run := runTemplate below }

end Template

end Scaffold
