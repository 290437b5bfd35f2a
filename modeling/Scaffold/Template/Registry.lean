import Scaffold.Template.Item.Load
import Scaffold.Template.Parser.Statement
import Scaffold.Template.Perform

/-!
# Rendering

A registry holds templates by name, each of which can make use of the others. It renders one of
them, or a source that is not in it, with variables.

A template that is imported is carried out once, and what it has made of itself is kept in the
registry for all renderings to come, until it is looked up after its source was replaced.

## Implementation notes

A registered source is parsed when it is added, and checked whenever it is used: what it takes to
be usable may depend on nothing but the source, but only a source that cannot be parsed is refused.
-/

namespace Scaffold

namespace Template

/-- A source that can be parsed, with its statements. -/
structure Source where
  text : Text
  body : List Stmt

/-- A module that was made already. -/
structure MadeModule where
  name : Text
  /-- The source that it was made from. -/
  source : Text
  address : Address

/-- Templates by name, in the order of their names. -/
structure Registry where
  /-- Variables that are not there may not be used. -/
  strict : Bool
  templates : List (Text × Source)
  /-- What modules refer to. -/
  cells : Array Cell
  modules : List MadeModule

/-- Why a template is not registered or not rendered. -/
inductive Failure
  /-- The source to register cannot be parsed. -/
  | invalid (name : Text)
  /-- A template that is not there is asked for. -/
  | unregistered (name : Text)
  /-- The template cannot be rendered. A source that is not registered has no name. -/
  | unrenderable (name : Option Text)
  /-- A value in the template does not bear what is done with it. -/
  | value (fault : Fault)
deriving DecidableEq, Repr

/-- The failure in words. Those of values have none. -/
def Failure.message : Failure → Option Text
  | invalid name => some (Text.of "Invalid template '" ++ name ++ ['\''])
  | unregistered name => some (Text.of "No template registered as '" ++ name ++ ['\''])
  | unrenderable none => some (Text.of "Cannot render template")
  | unrenderable (some name) => some (Text.of "Cannot render template '" ++ name ++ ['\''])
  | value _ => none

namespace Registry

/-- A registry without templates. -/
def empty (strict : Bool) : Registry := ⟨strict, [], #[], []⟩

/-- The names of the templates. -/
def names (r : Registry) : List Text := r.templates.map (·.1)

/-- Templates with one more, in place of the one of the same name if there is one. -/
def insert (name : Text) (source : Source) : List (Text × Source) → List (Text × Source)
  | [] => [(name, source)]
  | (n, s) :: rest =>
    if n = name then (n, source) :: rest
    else if Text.le name n then (name, source) :: (n, s) :: rest
    else (n, s) :: insert name source rest

/-- Add a template. One that cannot be parsed changes nothing. -/
def add (r : Registry) (name source : Text) : Except Failure Registry :=
  match parse? source with
  | some body => .ok { r with templates := insert name ⟨source, body⟩ r.templates }
  | none => .error (.invalid name)

/-- The template with a name. -/
def find (r : Registry) (name : Text) : Except Fault Template :=
  match r.templates.lookup name with
  | some source => ofBody (some name) source.body
  | none => .error .missingTemplate

/-! ### Modules -/

/-- Whether a module was made from the source that its template has now. -/
def isCurrent (r : Registry) (m : MadeModule) : Bool :=
  (r.templates.lookup m.name).any fun source => source.text = m.source

/-- What rendering begins with. -/
def start (r : Registry) : State where
  cells := r.cells
  out := []
  modules := (r.modules.filter r.isCurrent).map fun m => (m.name, m.address)
  loaded := []

/-- The registry after rendering, when some templates were looked up. A module of a source that was
replaced is kept unless its template was one of them: the source may be put back. -/
def after (r : Registry) (loaded : List Text) (state : State) : Registry :=
  let made := state.modules.filterMap fun (name, address) =>
    (r.templates.lookup name).map fun source => ⟨name, source.text, address⟩
  let outdated := r.modules.filter fun m => !r.isCurrent m && !loaded.contains m.name
  { r with cells := state.cells, modules := made ++ outdated }

/-! ### Rendering -/

/-- How deep routines, blocks, loops that are called, and templates may nest. -/
def depth : Nat := 240

/-- Render the template with the name. A source that is not registered has no name. -/
def render (r : Registry) (name : Option Text) (t : Template) (vars : List (Value × Value)) :
    Except Fault Text × Registry :=
  let work : Work Unit := do
    let given ← loadVariables vars
    let context ← allocate (.context (.ofTemplate t (given ++ commonNames)))
    (Engine.ofDepth r.strict r.find depth).run name t context
  match work.run r.start with
  | .ok () state => (.ok state.out.reverse.flatten, r.after (name.toList ++ state.loaded) state)
  | .error f state => (.error f, r.after (name.toList ++ state.loaded) state)

/-- Render a template if it can be used. -/
def renderIfUsable (r : Registry) (name : Option Text) (usable : Except Fault Template)
    (vars : List (Value × Value)) : Except Fault Text × Registry :=
  match usable with
  | .ok t => r.render name t vars
  | .error f => (.error f, r)

/-- Render a source with variables. Gives the registry after that as well. -/
def useSource (r : Registry) (source : Text) (vars : List (Value × Value)) :
    Except Failure Text × Registry :=
  let usable := match parse? source with
    | some body => ofBody none body
    | none => .error .malformed
  let (rendered, r) := r.renderIfUsable none usable vars
  (rendered.mapError fun f => if f.isOfTemplate then .unrenderable none else .value f, r)

/-- Render a registered template with variables. A template that is missing anywhere counts as the
one that was asked for. Gives the registry after that as well. -/
def useNamed (r : Registry) (name : Text) (vars : List (Value × Value)) :
    Except Failure Text × Registry :=
  let (rendered, r) := r.renderIfUsable (some name) (r.find name) vars
  (rendered.mapError fun f =>
    if f = .missingTemplate then .unregistered name
    else if f.isOfTemplate then .unrenderable (some name)
    else .value f, r)

/-- A source rendered with variables. -/
def renderSource (r : Registry) (source : Text) (vars : List (Value × Value)) :
    Except Failure Text :=
  (r.useSource source vars).1

/-- A registered template rendered with variables. -/
def renderNamed (r : Registry) (name : Text) (vars : List (Value × Value)) : Except Failure Text :=
  (r.useNamed name vars).1

end Registry

end Template

end Scaffold
