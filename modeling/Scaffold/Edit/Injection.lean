import Scaffold.Edit.Insertion

/-!
# Injections

An injection patches a file that exists already. Its placement says where the payload goes; an
injection without one leaves the text as it is. A pattern that is found nowhere leaves it as it
is too.
-/

namespace Scaffold

open Edit

/-- Where the payload of an injection goes. -/
inductive Placement
  | prepend
  | append
  | beside (side : Side) (which : Which) (pattern : Pattern)
  | removeLines (pattern : Pattern)
  | replace (pattern : Pattern)
  | replaceAll (pattern : Pattern)
deriving DecidableEq, Repr

/-- An edit of one file. -/
structure Injection where
  /-- The path of the file as it is written. -/
  target : Text
  payload : Text
  /-- Inside the line instead of as lines of its own. -/
  inline : Bool
  /-- A pattern whose presence makes the edit unnecessary. -/
  skipIf : Option Pattern
  placement : Option Placement
deriving DecidableEq, Repr

namespace Placement

/-- The key that sets a placement. -/
def key : Placement → String
  | prepend => "prepend"
  | append => "append"
  | beside .before .first _ => "before"
  | beside .before .last _ => "before_last"
  | beside .before .all _ => "before_all"
  | beside .after .first _ => "after"
  | beside .after .last _ => "after_last"
  | beside .after .all _ => "after_all"
  | removeLines _ => "remove_lines"
  | replace _ => "replace"
  | replaceAll _ => "replace_all"

/-- The pattern of a placement that has one. -/
def pattern? : Placement → Option Pattern
  | prepend | append => none
  | beside _ _ r | removeLines r | replace r | replaceAll r => some r

end Placement

/-- A text without the lines that a pattern is found in. The line feed at its end is kept as
long as a line is. -/
def Edit.removeLines (r : Pattern) (s : Text) : Text :=
  let terminated := s.getLast? == some '\n'
  let kept := (Text.lines (if terminated then s.dropLast else s)).filter fun line => !r.isFound line
  if terminated && !kept.isEmpty then Text.unlines kept ++ ['\n'] else Text.unlines kept

namespace Injection

/-- The text after the edit. -/
def apply (j : Injection) (s : Text) : Text :=
  match j.placement with
  | none => s
  | some .prepend => j.payload ++ '\n' :: s
  | some .append => s ++ '\n' :: j.payload
  | some (.beside side which r) => insert s j.payload j.inline r which side
  | some (.removeLines r) => removeLines r s
  | some (.replace r) => Pattern.editPieces (fun _ => j.payload) (r.piecesAtFirst s)
  | some (.replaceAll r) => Pattern.editPieces (fun _ => j.payload) (r.pieces s)

/-- Whether the text already holds what the edit is for. -/
def isSatisfied (j : Injection) (s : Text) : Bool :=
  match j.skipIf with
  | some r => r.isFound s
  | none => false

end Injection

end Scaffold
