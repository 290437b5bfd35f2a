import Scaffold.Path

/-!
# Storage

What a generation run needs of the place where files are kept. A run is written against this
interface and does not know whether the files are in memory or on a disk.
-/

namespace Scaffold

namespace Storage

/-- Why a file cannot be read or written. -/
inductive Failure
  /-- There is no file to read at the path. -/
  | notFound (path : Path)
  /-- There is nothing to inject into at the path. -/
  | noTarget (path : Path)
  /-- The file is not text. -/
  | unreadable (path : Path)
  /-- The path cannot be a file. -/
  | unwritable (path : Path)
  /-- The file is protected. -/
  | readOnly (path : Path)
  /-- The path holds a null character, which no file name may. -/
  | nullInPath
deriving DecidableEq, Repr

/-- The failure in words. -/
def Failure.message : Failure → Text
  | notFound path => Text.of "File not found: " ++ path.text
  | noTarget path => Text.of "cannot inject into " ++ path.text ++ Text.of ": file does not exist"
  | unreadable path => Text.of "Cannot read " ++ path.text
  | unwritable path => Text.of "Cannot write " ++ path.text
  | readOnly path => Text.of "Cannot write " ++ path.text ++ Text.of ": read-only"
  | nullInPath => Text.of "embedded null byte"

/-- The path of the operation that failed. -/
def Failure.path? : Failure → Option Path
  | notFound path | noTarget path | unreadable path | unwritable path | readOnly path => some path
  | nullInPath => none

/-- Whether the failure is that a file which has to exist does not. -/
def Failure.isMissing : Failure → Bool
  | notFound _ | noTarget _ => true
  | _ => false

end Storage

/-- A place where files are kept. -/
class Storage (σ : Type) where
  /-- Whether there is anything at the path. -/
  holds : σ → Path → Bool
  /-- The text of a file. -/
  read : σ → Path → Except Storage.Failure Text
  /-- Put a file at the path. Failing may still leave new directories behind. -/
  write : σ → Path → Text → Except Storage.Failure Unit × σ
  /-- The existing paths that match a pattern, in order. -/
  glob : σ → Text → List Path

end Scaffold
