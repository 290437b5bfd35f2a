import Scaffold.Text.Quoted
import Scaffold.Text.Utf8
import Scaffold.Text.Lines
import Scaffold.Yaml.Load

/-!
# Variables

The mapping that a template is rendered with: the contents of a YAML file, overridden by
assignments such as `a.b=3`. The value of an assignment is the YAML scalar on its right side,
or that side as text when it is anything else.
-/

namespace Scaffold

namespace Variables

/-- Entries of a mapping. -/
abbrev Entries := List (Value × Value)

/-- Why variables cannot be had. -/
inductive Failure
  /-- There is no file at the path. -/
  | notFound (path : Text)
  /-- The file is not YAML. -/
  | notYaml (path : Text)
  /-- The file holds the given kind of value instead of a mapping. -/
  | notMapping (path kind : Text)
  /-- An assignment without a name or without an equal sign. -/
  | noAssignment (written : Text)
  /-- A name with an empty part. -/
  | badName (name : Text)
  /-- A scalar has the look of a value that does not exist. -/
  | unreadable (fault : Yaml.Fault)
  /-- The file is not UTF-8. -/
  | notUtf8
deriving DecidableEq, Repr

/-- The failure in words, for those that are reported as errors of the variables. -/
def Failure.message? : Failure → Option Text
  | notFound path => some (Text.of "Variables file not found: " ++ path)
  | notYaml path => some (Text.of "Invalid YAML in " ++ path)
  | notMapping path kind =>
    some (Text.of "Expected a YAML mapping in " ++ path ++ Text.of ", got " ++ kind)
  | noAssignment written =>
    some (Text.of "Expected key=value, got " ++ Text.quoted written)
  | badName name => some (Text.of "Invalid variable name: " ++ Text.quoted name)
  | unreadable _ | notUtf8 => none

/-! ### Assignments -/

/-- A part of a name and the path below it, with the value to be put there. -/
structure Assignment where
  path : List Text
  value : Value

/-- The value of the right side of an assignment. -/
def assignedValue (raw : Text) : Except Failure Value :=
  if raw.isEmpty then .ok (.text [])
  else match Yaml.load raw with
    | .error .malformed => .ok (.text raw)
    | .error fault => .error (.unreadable fault)
    | .ok v =>
      match v with
      | .null | .list _ | .map .. | .cycle .. => .ok (.text raw)
      | _ => .ok v

/-- An assignment as it is written. -/
def Assignment.parse (written : Text) : Except Failure Assignment := do
  let (left, right?) := match Text.cutAt? ['='] written with
    | some (left, right) => (left, some right)
    | none => (written, none)
  let name := Text.trim left
  match right? with
  | none => throw (.noAssignment written)
  | some raw =>
    if name.isEmpty then throw (.noAssignment written)
    let path := Text.splitOnChar '.' name
    if path.any (·.isEmpty) then throw (.badName name)
    return ⟨path, ← assignedValue raw⟩

/-! ### Updating -/

/-- New mappings around a value, one for every part of the path. -/
def nest : List Text → Value → Value
  | [], v => v
  | part :: path, v => .map none [(.text part, nest path v)]

/-- The change that an assignment makes to one mapping. -/
structure Change where
  /-- The label of the mapping if it is shared. -/
  label : Option Nat
  key : Text
  value : Value

mutual

/-- A value in which every mapping with the label has the entry. -/
def putShared (label : Nat) (key : Text) (new : Value) : Value → Value
  | .list vs => .list (putSharedAll label key new vs)
  | .tuple vs => .tuple (putSharedAll label key new vs)
  | .map l es =>
    let es := putSharedEntries label key new es
    .map l (if l = some label then Value.insert (.text key) new es else es)
  | v => v

/-- Values in which every mapping with the label has the entry. -/
def putSharedAll (label : Nat) (key : Text) (new : Value) : List Value → List Value
  | [] => []
  | v :: vs => putShared label key new v :: putSharedAll label key new vs

/-- Entries in which every mapping with the label has the entry. -/
def putSharedEntries (label : Nat) (key : Text) (new : Value) : Entries → Entries
  | [] => []
  | (k, v) :: es => (k, putShared label key new v) :: putSharedEntries label key new es

end

mutual

/-- The mapping with a label inside a value. -/
def labelled? (label : Nat) : Value → Option Entries
  | .list vs | .tuple vs => labelledInAll? label vs
  | .map l es => if l = some label then some es else labelledInEntries? label es
  | _ => none

/-- The mapping with a label inside values. -/
def labelledInAll? (label : Nat) : List Value → Option Entries
  | [] => none
  | v :: vs => (labelled? label v).or (labelledInAll? label vs)

/-- The mapping with a label inside entries. -/
def labelledInEntries? (label : Nat) : Entries → Option Entries
  | [] => none
  | (_, v) :: es => (labelled? label v).or (labelledInEntries? label es)

end

/-- What an assignment does to the mapping at its place: the entries with the value put under
the path, or a change to a shared mapping that the path goes through. `root` is everything. -/
def assign (root : Value) : (path : List Text) → (label : Option Nat) → Entries → Value →
    Entries ⊕ Change
  | [], _, es, _ => .inl es
  | [key], label, es, v =>
    match label with
    | none => .inl (Value.insert (.text key) v es)
    | some _ => .inr ⟨label, key, v⟩
  | key :: path, label, es, v =>
    let below : Option (Option Nat × Entries) := match Value.lookup? (.text key) es with
      | some (.map l sub) => some (l, sub)
      | some (.cycle l true) => (labelled? l root).map fun sub => (some l, sub)
      | _ => none
    match below with
    | some (l, sub) =>
      match assign root path l sub v with
      | .inl sub =>
        match label with
        | none => .inl (Value.insert (.text key) (.map l sub) es)
        | some _ => .inr ⟨label, key, .map l sub⟩
      | .inr change => .inr change
    | none =>
      match label with
      | none => .inl (Value.insert (.text key) (nest path v) es)
      | some _ => .inr ⟨label, key, nest path v⟩

/-- Variables after an assignment. -/
def Assignment.apply (a : Assignment) (root : Value) : Value :=
  match root with
  | .map label es =>
    match assign root a.path label es a.value with
    | .inl es => .map label es
    | .inr change => match change.label with
      | some l => putShared l change.key change.value root
      | none => root
  | v => v

/-- Variables after assignments, up to the first one that cannot be read. -/
def applyAll (root : Value) : List Text → Value × Option Failure
  | [] => (root, none)
  | written :: rest =>
    match Assignment.parse written with
    | .ok a => applyAll (a.apply root) rest
    | .error e => (root, some e)

/-! ### Files -/

/-- The mapping in a YAML text. The path is for failures. An empty text holds the empty one. -/
def ofYaml (path s : Text) : Except Failure Value :=
  match Yaml.load (Text.unifyNewlines s) with
  | .error .malformed => .error (.notYaml path)
  | .error fault => .error (.unreadable fault)
  | .ok .null => .ok (.map none [])
  | .ok (.map label es) => .ok (.map label es)
  | .ok v => .error (.notMapping path v.kindName)

/-- The mapping in a file, given its contents if there is a file. -/
def ofFile (path : Text) (contents : Option (List UInt8)) : Except Failure Value :=
  match contents with
  | none => .error (.notFound path)
  | some bytes =>
    match Text.decode? bytes with
    | none => .error .notUtf8
    | some s => ofYaml path s

/-- Variables from a file, if one is given, overridden by assignments. -/
def load (file : Option (Text × Option (List UInt8))) (assignments : List Text) :
    Except Failure Value := do
  let root ← match file with
    | none => pure (Value.map none [])
    | some (path, contents) => ofFile path contents
  match applyAll root assignments with
  | (root, none) => return root
  | (_, some e) => throw e

end Variables

end Scaffold
