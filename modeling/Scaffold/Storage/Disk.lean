import Scaffold.Glob
import Scaffold.Storage.Basic
import Scaffold.Text.Utf8

/-!
# Files on a disk

A tree of directories and files of bytes, and the directory that relative paths begin at.

A path is walked component by component: everything but the last one has to be a directory, and
`..` leads to the directory above. Writing makes the directories that are missing above the
file; when it fails afterwards they stay.

Patterns are matched component by component too. A star does not match a slash, names that
begin with a dot are matched only by patterns that do, and `**` stands for any number of
directories.
-/

namespace Scaffold

/-- What is at a place of the tree. -/
inductive DiskEntry
  | file (bytes : List UInt8)
  | directory
deriving DecidableEq, Repr

/-- A tree of directories and files. Places are lists of names from the root on. -/
structure Disk where
  entries : List (List Text × DiskEntry)
  /-- Where relative paths begin. -/
  current : List Text
deriving DecidableEq, Repr

namespace Disk

/-- Why a walk ends early. -/
inductive Obstacle
  | missing
  | notDirectory
deriving DecidableEq, Repr

/-- What is at a place. The root is always a directory. -/
def entry? (d : Disk) (place : List Text) : Option DiskEntry :=
  if place.isEmpty then some .directory else d.entries.lookup place

/-- Put an entry at a place. -/
def put (d : Disk) (place : List Text) (entry : DiskEntry) : Disk :=
  { d with entries := (d.entries.filter (·.1 ≠ place)) ++ [(place, entry)] }

/-- One component further. -/
def step (place : List Text) (part : Text) : List Text :=
  if part = ['.', '.'] then place.dropLast else place ++ [part]

/-- The place that components lead to. There may be nothing at it. -/
def walk (d : Disk) : (place : List Text) → List Text → Except Obstacle (List Text)
  | place, [] => .ok place
  | place, part :: parts =>
    match d.entry? place with
    | some .directory => walk d (step place part) parts
    | some (.file _) => .error .notDirectory
    | none => .error .missing

/-- The place that a path leads to. -/
def locate (d : Disk) (path : Path) : Except Obstacle (List Text) :=
  d.walk (if path.isAbsolute then [] else d.current) path.parts

/-- What is at a path. -/
def at? (d : Disk) (path : Path) : Option DiskEntry :=
  match d.locate path with
  | .ok place => d.entry? place
  | .error _ => none

/-- Whether there is anything at a path. -/
def holds (d : Disk) (path : Path) : Bool := (d.at? path).isSome

/-- The text of a file. -/
def read (d : Disk) (path : Path) : Except Storage.Failure Text :=
  match d.at? path with
  | some (.file bytes) => match Text.decode? bytes with
    | some s => .ok s
    | none => .error (.unreadable path)
  | _ => .error (.notFound path)

/-- Make one directory, unless it is there. -/
def makeOne (d : Disk) (path : Path) : Except Obstacle Disk :=
  match d.locate path with
  | .error e => .error e
  | .ok place => match d.entry? place with
    | none => .ok (d.put place .directory)
    | some .directory => .ok d
    | some (.file _) => .error .notDirectory

/-- Make a directory and those above it that are missing. Tells whether it is there now. -/
def makeAll : (fuel : Nat) → Disk → Path → Bool × Disk
  | 0, d, _ => (false, d)
  | fuel + 1, d, path =>
    match d.makeOne path with
    | .ok d => (true, d)
    | .error .notDirectory => (false, d)
    | .error .missing =>
      if path.parts.isEmpty then (false, d)
      else match makeAll fuel d path.parent with
        | (true, d) => match d.makeOne path with
          | .ok d => (true, d)
          | .error _ => (false, d)
        | failed => failed

/-- A path with a null character in one of its components. -/
def hasNull (path : Path) : Bool := path.parts.any (·.contains '\x00')

/-- Put a file at the path, making directories for it. -/
def write (d : Disk) (path : Path) (contents : Text) : Except Storage.Failure Unit × Disk :=
  if hasNull path.parent then (.error .nullInPath, d)
  else match makeAll (path.parts.length + 1) d path.parent with
    | (false, d) => (.error (.unwritable path), d)
    | (true, d) =>
      if hasNull path then (.error .nullInPath, d)
      else match d.locate path with
        | .error _ => (.error (.unwritable path), d)
        | .ok place => match d.entry? place with
          | some .directory => (.error (.unwritable path), d)
          | _ => (.ok (), d.put place (.file (Text.encode contents)))

/-! ### Opening a file to add to it -/

/-- Why a file cannot be opened for adding to it. -/
inductive OpenFailure
  /-- A directory above it is missing. -/
  | missing
  /-- Something above it is a file. -/
  | notDirectory
  /-- It is a directory itself. -/
  | isDirectory
  /-- Its name holds a null character. -/
  | nullInPath
deriving DecidableEq, Repr

/-- Components with every `..` taken together with the component before it. -/
def collapse (parts : List Text) : List Text :=
  parts.foldl step []

/-- Open a file for adding to it, by a path whose `..` are collapsed first. A file that is not
there is made. -/
def openForAppend (d : Disk) (name : Text) : Except OpenFailure Disk :=
  let path := Path.ofText name
  let parts := collapse ((if path.isAbsolute then [] else d.current) ++ path.parts)
  if name.contains '\x00' then .error .nullInPath
  else match d.walk [] parts with
    | .error .missing => .error .missing
    | .error .notDirectory => .error .notDirectory
    | .ok place => match d.entry? place with
      | none => .ok (d.put place (.file []))
      | some (.file _) => .ok d
      | some .directory => .error .isDirectory

/-! ### Patterns -/

/-- The names in a directory. -/
def namesIn (d : Disk) (dir : Text) (onlyDirectories : Bool) : List Text :=
  match d.locate (Path.ofText dir) with
  | .error _ => []
  | .ok place =>
    if d.entry? place ≠ some .directory then []
    else d.entries.filterMap fun (p, e) =>
      if p.dropLast = place && !p.isEmpty && (!onlyDirectories || e = .directory) then
        p.getLast?
      else none

/-- Whether the text of a path leads to a directory. The empty text leads nowhere. -/
def isDirectory (d : Disk) (s : Text) : Bool :=
  !s.isEmpty && d.at? (Path.ofText s) = some .directory

/-- A name that patterns leave out unless they begin with a dot themselves. -/
def isHidden (name : Text) : Bool := name.head? = some '.'

/-- What stands before the last slash of a text, without slashes at its end, and what stands
behind it. -/
def splitLast (s : Text) : Text × Text :=
  let name := (s.reverse.takeWhile (· ≠ '/')).reverse
  let dir := s.take (s.length - name.length)
  if dir.all (· == '/') then (dir, name) else ((dir.reverse.dropWhile (· == '/')).reverse, name)

/-- Two texts with a slash between them if one is needed. -/
def joined (dir name : Text) : Text :=
  if name.head? = some '/' then name
  else if dir.isEmpty || dir.getLast? = some '/' then dir ++ name
  else dir ++ '/' :: name

/-- The same, without a slash behind `dir` when there is no name. -/
def joinedName (dir name : Text) : Text :=
  if dir.isEmpty || name.isEmpty then dir ++ name else joined dir name

/-- Everything below a directory that is not hidden. -/
def namesBelow (d : Disk) : (fuel : Nat) → (dir : Text) → (onlyDirectories : Bool) → List Text
  | 0, _, _ => []
  | fuel + 1, dir, onlyDirectories =>
    (d.namesIn dir onlyDirectories).flatMap fun name =>
      if isHidden name then []
      else name :: (namesBelow d fuel (joinedName dir name) onlyDirectories).map (joinedName name)

/-- What matches the last component of a pattern in a directory. -/
def matchesIn (d : Disk) (fuel : Nat) (dir pattern : Text) (onlyDirectories : Bool) : List Text :=
  if pattern = ['*', '*'] then [] :: namesBelow d fuel dir onlyDirectories
  else if Glob.hasWildcard pattern then
    (d.namesIn dir onlyDirectories).filter fun name =>
      (isHidden pattern || !isHidden name) && Glob.isMatch pattern name
  else if pattern.isEmpty then if d.isDirectory dir then [[]] else []
  else if d.holds (Path.ofText (joinedName dir pattern)) then [pattern] else []

/-- The texts of the paths that match a pattern. -/
def matchesOf (d : Disk) : (fuel : Nat) → (pattern : Text) → (onlyDirectories : Bool) → List Text
  | 0, _, _ => []
  | fuel + 1, pattern, onlyDirectories =>
    let (dir, name) := splitLast pattern
    let depth := d.entries.length + 1
    if !Glob.hasWildcard pattern then
      if name.isEmpty then if d.isDirectory dir then [pattern] else []
      else if d.holds (Path.ofText pattern) then [pattern] else []
    else if dir.isEmpty then matchesIn d depth [] name onlyDirectories
    else
      let dirs :=
        if dir ≠ pattern && Glob.hasWildcard dir then matchesOf d fuel dir true else [dir]
      dirs.flatMap fun dir =>
        (matchesIn d depth dir name onlyDirectories).map fun found => joined dir found

/-- The existing paths that match a pattern. -/
def glob (d : Disk) (pattern : Text) : List Path :=
  let found := d.matchesOf (pattern.length + 1) pattern false
  let found := if ['*', '*'].isPrefixOf pattern && found.head? = some [] then found.drop 1
    else found
  (found.mergeSort Text.le).map Path.ofText

/-! ### Whole trees -/

/-- An empty directory, and nothing else. -/
def empty : Disk := ⟨[([Text.of "work"], .directory)], [Text.of "work"]⟩

/-- The tree with a directory made at the path. -/
def withDirectory (d : Disk) (path : Text) : Disk :=
  let path := Path.ofText path
  (makeAll (path.parts.length + 1) d path).2

/-- The tree with a file of bytes at the path. -/
def withFile (d : Disk) (path : Text) (bytes : List UInt8) : Disk :=
  let path := Path.ofText path
  let d := (makeAll (path.parts.length + 1) d path.parent).2
  match d.locate path with
  | .ok place => d.put place (.file bytes)
  | .error _ => d

/-- The path of a place below the current directory, seen from there. -/
def relative? (d : Disk) (place : List Text) : Option Text :=
  if d.current.isPrefixOf place && d.current ≠ place then
    some (Text.join ['/'] (place.drop d.current.length))
  else none

/-- The files below the current directory, and the directories there with nothing in them. -/
def listing (d : Disk) : List (Text × Option (List UInt8)) :=
  d.entries.filterMap fun (place, e) => (d.relative? place).bind fun path =>
    match e with
    | .file bytes => some (path, some bytes)
    | .directory =>
      if d.entries.any fun (p, _) => p.dropLast = place && p ≠ place then none
      else some (path ++ ['/'], none)

end Disk

instance : Storage Disk where
  holds := Disk.holds
  read := Disk.read
  write := Disk.write
  glob := Disk.glob

end Scaffold
