import Scaffold.Command.Arguments
import Scaffold.Logging

/-!
# The command line

What is asked for on the command line: to generate files from a template, or to tell what a
template would generate. Paths are looked at before anything is done: a template has to be there
and may not be a directory, variables may not be in a directory, and the working directory may
not be a file.
-/

namespace Scaffold

namespace Command

/-- An option of every command. -/
inductive CommonOption
  | verbose
  | quiet
  | debug
  | version
  | help
deriving DecidableEq, Repr

/-- An option of one command. -/
inductive TaskOption
  | set
  | vars
  | workingDir
  | json
  | help
deriving DecidableEq, Repr

/-- The options of every command, by name. -/
def commonOptions : List (OptionName CommonOption) :=
  [⟨.verbose, some 'v', ["--verbose"], false⟩, ⟨.quiet, some 'q', ["--quiet"], false⟩,
    ⟨.debug, none, ["--debug"], false⟩, ⟨.version, none, ["--version"], false⟩,
    ⟨.help, none, ["--help"], false⟩]

/-- What can be done. -/
inductive Task
  | generate
  | check
deriving DecidableEq, Repr

/-- The options of a task, by name. Checking has no working directory. -/
def Task.options (t : Task) : List (OptionName TaskOption) :=
  [⟨.set, some 's', ["--set"], true⟩, ⟨.vars, some 'V', ["--vars"], true⟩,
    ⟨.json, none, ["--json-output", "--json"], false⟩, ⟨.help, none, ["--help"], false⟩] ++
  match t with
  | generate => [⟨.workingDir, some 'C', ["--working-dir"], true⟩]
  | check => []

/-- The task with a name. -/
def Task.ofName? (name : Text) : Option Task :=
  if name = Text.of "generate" then some generate
  else if name = Text.of "check" then some check
  else none

/-- What the words in front of a task ask for. -/
inductive Opening
  /-- The version. -/
  | version
  /-- How the program is used. -/
  | help
  /-- A task, with the words that go with it. -/
  | task (switches : Logging.Switches) (t : Task) (words : List Text)
deriving Repr

/-- Whether an option is given. -/
def isGiven {κ : Type} [BEq κ] (key : κ) (given : List (κ × Text)) : Bool :=
  given.any fun (k, _) => k == key

/-- The last value of an option. -/
def lastValue? {κ : Type} [BEq κ] (key : κ) (given : List (κ × Text)) : Option Text :=
  (given.reverse.find? fun (k, _) => k == key).map (·.2)

/-- What the first words of a command line ask for. -/
def Opening.ofWords? (words : List Text) : Option Opening := do
  let (given, rest) ← scanAll commonOptions false words
  match given.find? fun (k, _) => k == .version || k == .help with
  | some (.version, _) => return .version
  | some _ => return .help
  | none =>
    let name :: rest := rest | none
    let task ← Task.ofName? name
    return .task ⟨isGiven .debug given, isGiven .verbose given, isGiven .quiet given⟩ task rest

/-- What a task is to be done with. -/
structure Order where
  template : Text
  vars : Option Text
  assignments : List Text
  workingDir : Option Text
  /-- Tell the outcome to a program, not to people. -/
  asJson : Bool
deriving DecidableEq, Repr

/-- What is at a path as it is typed. Nothing is at an empty one, and only a directory at one
that ends with a slash. -/
def at? (disk : Disk) (path : Text) : Option DiskEntry :=
  match disk.at? (Path.ofText path) with
  | some .directory => if path.isEmpty then none else some .directory
  | some (.file bytes) => if path.getLast? = some '/' then none else some (.file bytes)
  | none => none

/-- Whether the paths of an order can be what they are for. -/
def Order.isPlausible (o : Order) (disk : Disk) : Bool :=
  (at? disk o.template matches some (.file _)) &&
    !(o.vars.any fun path => at? disk path matches some .directory) &&
    !(o.workingDir.any fun path => at? disk path matches some (.file _))

/-- What the words behind a task ask for: an order, or how the task is used. -/
def Order.ofWords? (t : Task) (disk : Disk) (words : List Text) : Option (Option Order) := do
  let (given, rest) ← scanAll t.options true words
  if isGiven .help given then return none
  let [template] := rest | none
  let order : Order := {
    template := template
    vars := lastValue? .vars given
    assignments := given.filterMap fun (k, v) => if k == .set then some v else none
    workingDir := lastValue? .workingDir given
    asJson := isGiven .json given }
  if order.isPlausible disk then return some order else none

end Command

end Scaffold
