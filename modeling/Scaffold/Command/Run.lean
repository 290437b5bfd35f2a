import Scaffold.Command.Basic
import Scaffold.Document.Summary
import Scaffold.Generator
import Scaffold.Variables

/-!
# Carrying out a command line

A command line is carried out on a disk. It leaves a disk behind, has put out text and log lines,
and ends in one of several ways. Generating tells every event as it happens, unless it is asked to
be quiet or to tell the outcome to a program.
-/

namespace Scaffold

namespace Command

/-- Why a command ends early. -/
inductive Failure
  | vars (e : Variables.Failure)
  | generator (e : Generator.Failure)
  /-- The template is not text. -/
  | notText
  /-- The log cannot be written to its file. -/
  | logFile (e : Disk.OpenFailure)
deriving Repr

/-- The failure in words, for those that commands tell about. -/
def Failure.message? : Failure → Option Text
  | vars e => e.message?
  | generator (.template e) => e.message
  | generator (.run (.document e)) => e.message?
  | generator (.run (.storage .nullInPath)) => none
  | generator (.run (.storage e)) => some e.message
  | notText | logFile _ => none

/-- How a command ends. -/
inductive Ending
  | done
  /-- The command line cannot be understood. -/
  | misused
  | failed (e : Failure) (asJson : Bool)
deriving Repr

/-- What a command leaves behind. -/
structure Outcome where
  disk : Disk
  /-- What was put out before the end. -/
  output : Text
  /-- The lines of the log on the terminal. -/
  log : List Text
  ending : Ending

/-- The end of a failed command in words, if it tells about the failure. -/
def Ending.report? : Ending → Option Text
  | .failed e asJson => e.message?.map fun m =>
    if asJson then (Json.object [(Text.of "error", .text m)]).written Json.spread ++ ['\n']
    else Text.of "❌ " ++ m ++ ['\n']
  | _ => none

/-- The code that tells how a command ended. -/
def Ending.code : Ending → Nat
  | .done => 0
  | .misused => 2
  | .failed .. => 1

/-- Lines with their ends. -/
def endedLines (ls : List Text) : Text := ls.flatMap (· ++ ['\n'])

/-! ### The two tasks -/

/-- The variables that an order gives. -/
def Order.bindings (o : Order) (disk : Disk) : Except Failure (List (Value × Value)) := do
  let file := o.vars.map fun path =>
    let p := Path.ofText path
    (p.text, match disk.at? p with
      | some (.file bytes) => some bytes
      | _ => none)
  match Variables.load file o.assignments with
  | .ok (.map _ entries) => return entries
  | .ok _ => return []
  | .error e => throw (.vars e)

/-- The text of the template of an order. -/
def Order.source (o : Order) (disk : Disk) : Except Failure Text :=
  match disk.read (Path.ofText o.template) with
  | .ok s => .ok (Text.unifyNewlines s)
  | .error _ => .error .notText

/-- What an event is called in front of its path. -/
def eventLabel : Run.EventKind → String
  | .added => "added: "
  | .overwritten => "overwritten: "
  | .skipped => "skipped (exists): "
  | .injected => "injected: "

/-- What an event is called by programs. -/
def eventName : Run.EventKind → String
  | .added => "added"
  | .overwritten => "overwritten"
  | .skipped => "skipped"
  | .injected => "injected"

/-- The line for an event. -/
def eventLine (e : Run.Event) : Text := Text.of (eventLabel e.kind) ++ e.path.text

/-- What a run came to, for programs. -/
def resultJson (result : Run.Result) (events : List Run.Event) : Json :=
  let (status, message) := match result with
    | .skipped => ("skipped", none)
    | .generated message => ("generated", message)
  .object [(Text.of "status", .text (Text.of status)),
    (Text.of "message", Document.optional message),
    (Text.of "events", .list (events.map fun e => .object
      [(Text.of "event", .text (Text.of (eventName e.kind))),
        (Text.of "path", .text e.path.text)]))]

/-- The message of a run for people, if it has one. -/
def messageText : Run.Result → Text
  | .generated (some message) => if message.isEmpty then [] else '\n' :: message ++ ['\n']
  | _ => []

/-- The lines of the log that a level shows on the terminal. -/
def shownNotes (level : Logging.Level) (notes : List Run.Note) : List Text :=
  notes.filterMap fun n =>
    let own : Logging.Level := if n.isWarning then .warning else .info
    if level.rank ≤ own.rank then
      some (Text.of (if n.isWarning then "WARNING: " else "INFO: ") ++ n.message)
    else none

/-- Generate files. -/
def generate (o : Order) (switches : Logging.Switches) (level : Logging.Level) (disk : Disk) :
    Outcome :=
  match (do return (← o.bindings disk, ← o.source disk) : Except Failure _) with
  | .error e => ⟨disk, [], [], .failed e o.asJson⟩
  | .ok (vars, source) =>
    let g := Generator.ofStore disk (o.workingDir.map Path.ofText)
    let (answer, g) := g.generate source vars
    let told := if o.asJson || switches.quiet then []
      else endedLines (g.progress.events.map eventLine)
    let log := shownNotes level g.progress.notes
    match answer with
    | .error e => ⟨g.progress.store, told, log, .failed (.generator e) o.asJson⟩
    | .ok result =>
      let output := if o.asJson then
          (resultJson result g.progress.events).written Json.spread ++ ['\n']
        else told ++ messageText result
      ⟨g.progress.store, output, log, .done⟩

/-- The pairs of the document that a template is rendered to. -/
def Order.pairs (o : Order) (disk : Disk) : Except Failure (List (Directive × Text)) := do
  let vars ← o.bindings disk
  let source ← o.source disk
  let rendered ← ((Template.Registry.empty false).renderSource source vars).mapError fun e =>
    .generator (.template e)
  (Document.parse rendered).mapError fun e => .generator (.run (.document e))

/-- Tell what would be generated. -/
def check (o : Order) (disk : Disk) : Outcome :=
  match o.pairs disk with
  | .error e => ⟨disk, [], [], .failed e o.asJson⟩
  | .ok pairs =>
    let summaries := Document.summaries pairs
    let output := if o.asJson then
        (Json.list (summaries.map Document.Summary.json)).written Json.spread ++ ['\n']
      else endedLines (Document.report summaries)
    ⟨disk, output, [], .done⟩

/-! ### Command lines -/

/-- The line that tells the version. -/
def versionLine : Text := Text.of "stencil, version 0.1.0\n"

/-- How the program is used. -/
def usage : Text := endedLines <|
  ["Usage: stencil [OPTIONS] COMMAND [ARGS]...",
    "",
    "  Generate files from templates and patch existing ones.",
    "",
    "Options:",
    "  --version      Show the version and exit.",
    "  -v, --verbose  Enable verbose output.",
    "  -q, --quiet    Suppress non-essential output.",
    "  --debug        Enable debug logging (very verbose).",
    "  --help         Show this message and exit.",
    "",
    "Commands:",
    "  check     Render and parse TEMPLATE without touching any file.",
    "  generate  Render TEMPLATE and write / patch the files it describes."].map Text.of

/-- Carry out a task. The log file is opened before the words behind the task are looked at. -/
def runTask (environment : Logging.Environment) (switches : Logging.Switches) (t : Task)
    (words : List Text) (disk : Disk) : Outcome :=
  let request := Logging.Request.ofEnvironment (Logging.levelName switches environment)
    switches.debug environment
  match request.openFile disk with
  | .error e => ⟨disk, [], [], .failed (.logFile e) false⟩
  | .ok disk =>
    match Order.ofWords? t disk words with
    | none => ⟨disk, [], [], .misused⟩
    | some none => ⟨disk, usage, [], .done⟩
    | some (some order) => match t with
      | .generate => generate order switches (Logging.Level.ofName request.level) disk
      | .check => check order disk

/-- Carry out a command line. -/
def run (environment : Logging.Environment) (words : List Text) (disk : Disk) : Outcome :=
  match Opening.ofWords? words with
  | none => ⟨disk, [], [], .misused⟩
  | some .version => ⟨disk, versionLine, [], .done⟩
  | some .help => ⟨disk, usage, [], .done⟩
  | some (.task switches t words) => runTask environment switches t words disk

end Command

end Scaffold
