import Scaffold.Command.Run

/-!
# The program

Reads the tree below the directory it is started in, carries out the command line on it, and
writes what has changed. Paths that lead out of the tree find nothing there, apart from the
directories that the tree itself is in.
-/

namespace Scaffold

namespace Program

/-- What is below a directory. Files that cannot be read are left out. -/
partial def entriesBelow (dir : String) (place : List Text) :
    IO (List (List Text × DiskEntry)) := do
  let mut found := []
  for entry in ← ((← IO.currentDir) / dir).readDir do
    let place := place ++ [Text.of entry.fileName]
    if ← entry.path.isDir then
      found := found ++ (place, .directory) :: (← entriesBelow entry.path.toString place)
    else
      try
        let bytes ← IO.FS.readBinFile entry.path
        found := found ++ [(place, .file bytes.toList)]
      catch _ => pure ()
  return found

/-- The tree that the program works on. -/
def readDisk : IO Disk := do
  let here ← IO.currentDir
  let current := (here.components.filter (· ≠ "")).map Text.of
  let above := (List.range current.length).map fun n => (current.take (n + 1), DiskEntry.directory)
  return ⟨above ++ (← entriesBelow here.toString current), current⟩

/-- Write the entries of a tree that are not in the one before. -/
def writeChanges (before after : Disk) : IO Unit := do
  for (place, entry) in after.entries do
    if before.entry? place ≠ some entry then
      let name := String.ofList ('/' :: Text.join ['/'] place)
      match entry with
      | .directory => IO.FS.createDirAll name
      | .file bytes => IO.FS.writeBinFile name ⟨bytes.toArray⟩

/-- The variables of the environment that commands look at. -/
def readEnvironment : IO Logging.Environment := do
  let mut found := []
  for name in ["STENCIL_LOG_LEVEL", "STENCIL_LOG_FILE", "STENCIL_LOG_FILE_LEVEL"] do
    if let some value ← IO.getEnv name then
      found := found ++ [(Text.of name, Text.of value)]
  return found

/-- Tell how a command ended. Programs are told in the output, people on the terminal. -/
def tellEnding (ending : Command.Ending) : IO Unit := do
  match ending with
  | .done => pure ()
  | .misused => IO.eprint (String.ofList Command.usage)
  | .failed _ asJson =>
    let report := String.ofList (ending.report?.getD (Text.of "unexpected failure\n"))
    if asJson then IO.print report else IO.eprint report

end Program

end Scaffold

/-- Carry out the command line. -/
def main (words : List String) : IO UInt32 := do
  let before ← Scaffold.Program.readDisk
  let environment ← Scaffold.Program.readEnvironment
  let outcome := Scaffold.Command.run environment (words.map Scaffold.Text.of) before
  Scaffold.Program.writeChanges before outcome.disk
  for line in outcome.log do
    IO.eprintln (String.ofList line)
  IO.print (String.ofList outcome.output)
  Scaffold.Program.tellEnding outcome.ending
  return outcome.ending.code.toUInt32
