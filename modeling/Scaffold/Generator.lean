import Scaffold.Run
import Scaffold.Template.Registry

/-!
# Generating files from templates

A generator renders a template and runs the document that comes out of it. Nothing is done
unless all of the template can be rendered and all of the document can be read.
-/

namespace Scaffold

/-- What generates files. -/
structure Generator (σ : Type) where
  registry : Template.Registry
  /-- Where relative paths begin. -/
  workingDir : Option Path
  progress : Run.Progress σ

namespace Generator

/-- Why nothing, or only a part, is generated. -/
inductive Failure
  | template (e : Template.Failure)
  | run (e : Run.Failure)
deriving DecidableEq, Repr

variable {σ : Type} [Storage σ]

/-- A generator over a store that has not done anything yet. -/
def ofStore (store : σ) (workingDir : Option Path) : Generator σ :=
  ⟨.empty false, workingDir, ⟨store, [], []⟩⟩

/-- Carry something out. -/
def act {α : Type} (g : Generator σ) (action : Run.Action σ α) :
    Except Run.Failure α × Generator σ :=
  let (answer, progress) := action g.progress
  (answer, { g with progress := progress })

/-- Run a document. -/
def runDocument (g : Generator σ) (s : Text) : Except Run.Failure Run.Result × Generator σ :=
  g.act (Run.document g.workingDir s)

/-- Run the document that a template was rendered to. -/
def runRendered (g : Generator σ) (rendered : Except Template.Failure Text) :
    Except Failure Run.Result × Generator σ :=
  match rendered with
  | .error e => (.error (.template e), g)
  | .ok s =>
    let (answer, g) := g.runDocument s
    (answer.mapError .run, g)

/-- Render a source with variables and run it. -/
def generate (g : Generator σ) (source : Text) (vars : List (Value × Value)) :
    Except Failure Run.Result × Generator σ :=
  let (rendered, registry) := g.registry.useSource source vars
  { g with registry := registry }.runRendered rendered

/-- Render a registered template with variables and run it. -/
def generateNamed (g : Generator σ) (name : Text) (vars : List (Value × Value)) :
    Except Failure Run.Result × Generator σ :=
  let (rendered, registry) := g.registry.useNamed name vars
  { g with registry := registry }.runRendered rendered

/-- Register a template. A source that is refused changes nothing. -/
def register (g : Generator σ) (name source : Text) :
    Except Template.Failure Unit × Generator σ :=
  match g.registry.add name source with
  | .ok registry => (.ok (), { g with registry := registry })
  | .error e => (.error e, g)

end Generator

end Scaffold
