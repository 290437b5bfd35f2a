import Scaffold.Glob
import Scaffold.Storage.Basic

/-!
# Files in memory

Files are kept under the text of their path, in the order in which they were first written.
Directories are not kept: one exists as long as there is a file below it. Every write is
recorded.
-/

namespace Scaffold

/-- Files in memory. -/
structure Memory where
  files : List (Text × Text)
  readOnly : List Text
  /-- What was written, first things first. -/
  writes : List (Text × Text)
deriving DecidableEq, Repr

namespace Memory

/-- Contents put under a key: in place when the key is there, at the end otherwise. -/
def put (key contents : Text) : List (Text × Text) → List (Text × Text)
  | [] => [(key, contents)]
  | (k, c) :: rest =>
    if k = key then (key, contents) :: rest else (k, c) :: put key contents rest

/-- The given files, with some of the paths protected. -/
def ofFiles (files : List (Text × Text)) (readOnly : List Text) : Memory where
  files := files.foldl (fun fs (p, c) => put (Path.ofText p).text c fs) []
  readOnly := readOnly.map fun p => (Path.ofText p).text
  writes := []

/-- The keys that files are kept under. -/
def keys (m : Memory) : List Text := m.files.map (·.1)

/-- What the keys of everything below a key begin with. -/
def below (key : Text) : Text := (key.reverse.dropWhile (· == '/')).reverse ++ ['/']

/-- Whether a file is kept under the key, or below it. -/
def holds (m : Memory) (path : Path) : Bool :=
  m.keys.any fun k => k == path.text || (below path.text).isPrefixOf k

/-- The text of a file. -/
def read (m : Memory) (path : Path) : Except Storage.Failure Text :=
  match m.files.lookup path.text with
  | some contents => .ok contents
  | none => .error (.notFound path)

/-- The store once a file was put at the path. -/
def written (m : Memory) (path : Path) (contents : Text) : Memory :=
  { m with
    files := put path.text contents m.files
    writes := m.writes ++ [(path.text, contents)] }

/-- Put a file at the path unless the path is protected. -/
def write (m : Memory) (path : Path) (contents : Text) : Except Storage.Failure Unit × Memory :=
  if m.readOnly.contains path.text then (.error (.readOnly path), m)
  else (.ok (), m.written path contents)

/-- The kept paths that match a pattern as a whole. A star matches slashes too. -/
def glob (m : Memory) (pattern : Text) : List Path :=
  let pattern := (Path.ofText pattern).text
  ((m.keys.filter (Glob.isMatch pattern)).mergeSort Text.le).map Path.ofText

/-- The files kept, with no writes recorded. -/
def forgetWrites (m : Memory) : Memory := { m with writes := [] }

end Memory

instance : Storage Memory where
  holds := Memory.holds
  read := Memory.read
  write := Memory.write
  glob := Memory.glob

end Scaffold
