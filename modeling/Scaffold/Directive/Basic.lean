import Scaffold.Edit.Injection

/-!
# Directives

What to do with one body of text: where it goes, when it is left out, what to tell the user,
and which files to patch afterwards.
-/

namespace Scaffold

/-- The header of one body. -/
structure Directive where
  /-- The path of the file the body goes to, as it is written. -/
  target : Text
  /-- Leave the pair out when the target exists. -/
  skipIfExists : Bool
  /-- Leave the pair out when a path matches this pattern. -/
  skipIfGlob : Option Text
  message : Option Text
  injections : List Injection
deriving DecidableEq, Repr

end Scaffold
