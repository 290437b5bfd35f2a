import Scaffold.Storage.Disk
import Scaffold.Text.Case

/-!
# Logging

How much of the log is shown, where, and in what form. Levels are asked for by switches, by the
environment, or not at all, in this order. The log goes to the terminal, and also to a file when
the environment names one.
-/

namespace Scaffold

namespace Logging

/-- How much a line of the log matters. -/
inductive Level
  | notset
  | debug
  | info
  | warning
  | error
  | critical
deriving DecidableEq, Repr

namespace Level

/-- Levels are ten apart. -/
def rank : Level → Nat
  | notset => 0
  | debug => 10
  | info => 20
  | warning => 30
  | error => 40
  | critical => 50

/-- The names of the levels. Two levels have two. -/
def named : List (String × Level) :=
  [("NOTSET", notset), ("DEBUG", debug), ("INFO", info), ("WARNING", warning), ("WARN", warning),
    ("ERROR", error), ("CRITICAL", critical), ("FATAL", critical)]

/-- The level with a name, in letters of any case. Other names mean warnings. -/
def ofName (name : Text) : Level :=
  match named.find? fun (n, _) => Text.of n = Text.upper name with
  | some (_, level) => level
  | none => warning

/-- The level that shows more. -/
def lower (a b : Level) : Level := if a.rank ≤ b.rank then a else b

end Level

/-- The switches that set the level. -/
structure Switches where
  debug : Bool
  verbose : Bool
  quiet : Bool
deriving DecidableEq, Repr

/-- The environment, by name. -/
abbrev Environment := List (Text × Text)

/-- The name of the level for the terminal. -/
def levelName (s : Switches) (environment : Environment) : Text :=
  if s.debug then Text.of "DEBUG"
  else if s.verbose then Text.of "INFO"
  else if s.quiet then Text.of "ERROR"
  else match environment.lookup (Text.of "STENCIL_LOG_LEVEL") with
    | none | some [] => Text.of "WARNING"
    | some name => name

/-- What a line of the log is made of. -/
structure Layout where
  line : String
  /-- How times are written, in lines that have one. -/
  time : Option String
deriving DecidableEq, Repr

/-- Lines with the time, the level and the place that wrote them. -/
def fullLine : String := "%(asctime)s %(levelname)-5s %(name)s:%(lineno)d  %(message)s"

/-- Lines on the terminal say the more the more of them are shown. -/
def Layout.onTerminal (level : Level) : Layout :=
  if level.rank ≤ Level.debug.rank then ⟨fullLine, some "%H:%M:%S"⟩
  else if level.rank ≤ Level.info.rank then ⟨"%(asctime)s [%(name)s] %(message)s", some "%H:%M:%S"⟩
  else ⟨"%(levelname)s: %(message)s", none⟩

/-- Lines in a file. -/
def Layout.inFile : Layout := ⟨fullLine, some "%Y-%m-%d %H:%M:%S"⟩

/-- A place the log goes to. -/
structure Sink where
  /-- A file, or the terminal. -/
  isFile : Bool
  level : Level
  layout : Layout
deriving DecidableEq, Repr

/-- What is asked for. -/
structure Request where
  level : Text
  file : Option Text
  fileLevel : Option Text
  /-- Whether the template engine's own lines are held back. -/
  quietEngine : Bool
deriving DecidableEq, Repr

/-- A request with the file taken from the environment. -/
def Request.ofEnvironment (level : Text) (debug : Bool) (environment : Environment) : Request where
  level
  file := environment.lookup (Text.of "STENCIL_LOG_FILE")
  fileLevel := environment.lookup (Text.of "STENCIL_LOG_FILE_LEVEL")
  quietEngine := !debug

/-- Where the log goes and how much of it. -/
structure Setup where
  sinks : List Sink
  /-- Lines below this level go nowhere. -/
  level : Level
  /-- The level for the lines of the template engine. -/
  engineLevel : Level
deriving DecidableEq, Repr

/-- The name of the file of a request, if there is one. -/
def Request.file? (r : Request) : Option Text :=
  match r.file with
  | none | some [] => none
  | some name => some name

/-- The level for the file of a request. -/
def Request.levelInFile (r : Request) : Level :=
  match r.fileLevel with
  | none | some [] => Level.ofName r.level
  | some name => Level.ofName name

/-- What a request comes to. -/
def Request.setup (r : Request) : Setup :=
  let level := Level.ofName r.level
  let terminal : Sink := ⟨false, level, Layout.onTerminal level⟩
  let engineLevel :=
    if r.quietEngine && Level.debug.rank < level.rank then Level.warning else Level.notset
  match r.file? with
  | none => ⟨[terminal], level, engineLevel⟩
  | some _ =>
    let inFile := r.levelInFile
    ⟨[terminal, ⟨true, inFile, Layout.inFile⟩], level.lower inFile, engineLevel⟩

/-- The disk after the file of a request was opened for lines to be added. -/
def Request.openFile (r : Request) (disk : Disk) : Except Disk.OpenFailure Disk :=
  match r.file? with
  | none => .ok disk
  | some name => disk.openForAppend name

end Logging

end Scaffold
