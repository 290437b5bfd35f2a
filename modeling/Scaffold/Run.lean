import Scaffold.Document.Parse
import Scaffold.Storage.Basic

/-!
# Running a document

The pairs of a document are run in order: a pair is skipped, or its body is written and its
injections are carried out, in order too. The first failure ends the run, and what was done
before it stays done.

## Implementation notes

A run changes the store, reports events and writes a log, and it keeps all three when it fails.
So it is a state with exceptions inside, and not the other way round.
-/

namespace Scaffold

namespace Run

/-- What happened to a file. -/
inductive EventKind
  | added
  | overwritten
  | skipped
  | injected
deriving DecidableEq, Repr

/-- An event and the path it is about. -/
structure Event where
  kind : EventKind
  path : Path
deriving DecidableEq, Repr

/-- A line of the log. -/
inductive Note
  | wrote (path : Path)
  | injected (placement : Option Text) (path : Path)
  /-- An injection into the target has no placement. -/
  | idle (target : Text)
deriving DecidableEq, Repr

/-- The line in words. -/
def Note.message : Note → Text
  | wrote path => Text.of "Wrote " ++ path.text
  | injected placement path =>
    Text.of "Injected " ++ placement.getD (Text.of "nothing") ++ Text.of " into " ++ path.text
  | idle target =>
    Text.of "No injection made into " ++ target ++ Text.of ": no placement key set"

/-- Whether the line is a warning. -/
def Note.isWarning : Note → Bool
  | idle _ => true
  | _ => false

/-- What a run works on and leaves behind. -/
structure Progress (σ : Type) where
  store : σ
  /-- The events so far, first things first. -/
  events : List Event
  /-- The log so far, first things first. -/
  notes : List Note
deriving DecidableEq, Repr

/-- Why a run ends early. -/
inductive Failure
  | document (e : Document.Failure)
  | storage (e : Storage.Failure)
deriving DecidableEq, Repr

/-- The outcome of a pair, or of a whole document. -/
inductive Result
  | skipped
  | generated (message : Option Text)
deriving DecidableEq, Repr

/-- What a pair has to tell. An empty message does not count. -/
def Result.message? : Result → Option Text
  | .generated (some message) => if message.isEmpty then none else some message
  | _ => none

/-- The messages of the pairs that were written, one to a line. -/
def merge (results : List Result) : Result :=
  .generated <| some <| Text.join ['\n'] <| results.filterMap Result.message?

/-- A path looked up under the working directory, if there is one. -/
def resolve (workingDir : Option Path) (path : Text) : Path :=
  match workingDir with
  | some dir => dir.under (Path.ofText path)
  | none => Path.ofText path

variable {σ : Type} [Storage σ]

/-- The lines that an injection logs by itself. -/
def notesOf (j : Injection) : List Note :=
  match j.placement with
  | none => [.idle j.target]
  | some _ => []

/-- What is done with the progress of a run. -/
abbrev Action (σ α : Type) := Progress σ → Except Failure α × Progress σ

/-- Patch the file at a path. Nothing is patched when the file already holds what the injection
is for. Line ends are unified before anything is looked for. -/
def inject (j : Injection) (path : Path) : Action σ Bool := fun p =>
  if !Storage.holds p.store path then (.error (.storage (.noTarget path)), p)
  else match Storage.read p.store path with
    | .error e => (.error (.storage e), p)
    | .ok contents =>
      let contents := Text.unifyNewlines contents
      if j.isSatisfied contents then (.ok false, p)
      else
        let noted := p.notes ++ notesOf j
        match Storage.write p.store path (j.apply contents) with
        | (.error e, store) => (.error (.storage e), { p with store, notes := noted })
        | (.ok (), store) => (.ok true, {
            store
            events := p.events ++ [⟨.injected, path⟩]
            notes := noted ++ [.injected (j.placement.map fun q => Text.of q.key) path] })

/-- Carry out injections in order. -/
def injectAll (workingDir : Option Path) : List Injection → Action σ Unit
  | [], p => (.ok (), p)
  | j :: rest, p =>
    match inject j (resolve workingDir j.target) p with
    | (.error e, p) => (.error e, p)
    | (.ok _, p) => injectAll workingDir rest p

/-- Whether a directive is skipped: its target exists, or a path matches its pattern. -/
def isSkipped (workingDir : Option Path) (d : Directive) (store : σ) : Bool :=
  (d.skipIfExists && Storage.holds store (resolve workingDir d.target)) ||
  match d.skipIfGlob with
  | none => false
  | some pattern =>
    !pattern.isEmpty && !(Storage.glob store (resolve workingDir pattern).text).isEmpty

/-- Write the body of a pair. -/
def writeBody (path : Path) (body : Text) : Action σ Unit := fun p =>
  let existed := Storage.holds p.store path
  match Storage.write p.store path body with
  | (.error e, store) => (.error (.storage e), { p with store })
  | (.ok (), store) => (.ok (), {
      store
      events := p.events ++ [⟨if existed then .overwritten else .added, path⟩]
      notes := p.notes ++ [.wrote path] })

/-- Run one pair. -/
def pair (workingDir : Option Path) (d : Directive) (body : Text) : Action σ Result := fun p =>
  let path := resolve workingDir d.target
  if isSkipped workingDir d p.store then
    (.ok .skipped, { p with events := p.events ++ [⟨.skipped, path⟩] })
  else match writeBody path body p with
    | (.error e, p) => (.error e, p)
    | (.ok (), p) => match injectAll workingDir d.injections p with
      | (.error e, p) => (.error e, p)
      | (.ok (), p) => (.ok (.generated d.message), p)

/-- Run pairs in order. -/
def pairs (workingDir : Option Path) : List (Directive × Text) → Action σ (List Result)
  | [], p => (.ok [], p)
  | (d, body) :: rest, p =>
    match pair workingDir d body p with
    | (.error e, p) => (.error e, p)
    | (.ok result, p) => match pairs workingDir rest p with
      | (.error e, p) => (.error e, p)
      | (.ok results, p) => (.ok (result :: results), p)

/-- Run a document. All of it is read before anything is done. -/
def document (workingDir : Option Path) (s : Text) : Action σ Result := fun p =>
  match Document.parse s with
  | .error e => (.error (.document e), p)
  | .ok ps => match pairs workingDir ps p with
    | (.error e, p) => (.error e, p)
    | (.ok results, p) => (.ok (merge results), p)

end Run

end Scaffold
