import Scaffold.Pattern.Search
import Scaffold.Text.Lines

/-!
# Inserting next to a match

A payload goes before or after what a pattern selects, either as lines of its own or inside the
line, glued to the matched text. The lines are selected in the text as it was, so no insertion
moves the reference point of another.

What is selected are the lines a pattern is found in, or only the first or the last of them.
Finding none is an answer and not a failure.
-/

namespace Scaffold

namespace Edit

/-! ### Selecting lines -/

/-- Which of the lines that a pattern is found in. -/
inductive Which
  | first
  | last
  | all
deriving DecidableEq, Repr

/-- The indices of all lines the pattern is found in, ascending. -/
def foundLines (r : Pattern) (ls : List Text) : List Nat :=
  ls.zipIdx.filterMap fun (line, i) => if r.isFound line then some i else none

/-- The index of the first line the pattern is found in. -/
def firstFound? (r : Pattern) (ls : List Text) : Option Nat := ls.findIdx? r.isFound

/-- The index of the last line the pattern is found in, looked for from the end. -/
def lastFound? (r : Pattern) (ls : List Text) : Option Nat :=
  (firstFound? r ls.reverse).map fun i => ls.length - 1 - i

/-- The indices of the selected lines. -/
def selected (r : Pattern) (ls : List Text) : Which → List Nat
  | .first => (firstFound? r ls).toList
  | .last => (lastFound? r ls).toList
  | .all => foundLines r ls

/-! ### Inserting -/

/-- On which side of a match. -/
inductive Side
  | before
  | after
deriving DecidableEq, Repr

/-- Two texts in the order that puts the payload on its side. -/
def Side.order {α : Type} (side : Side) (payload place : α) : List α :=
  match side with
  | before => [payload, place]
  | after => [place, payload]

/-- The payload as a line next to every chosen line. -/
def insertLines (payload : Text) (side : Side) (chosen : List Nat) (ls : List Text) : List Text :=
  ls.zipIdx.flatMap fun (line, i) =>
    if chosen.contains i then side.order payload line else [line]

/-- The payload next to the matches in a line: to the first one only, or to all. -/
def splice (r : Pattern) (payload : Text) (side : Side) (firstOnly : Bool) (line : Text) : Text :=
  Pattern.editPieces (fun found => (side.order payload found).flatten)
    (if firstOnly then r.piecesAtFirst line else r.pieces line)

/-- The payload inside every chosen line. -/
def insertInline (r : Pattern) (payload : Text) (side : Side) (firstOnly : Bool)
    (chosen : List Nat) (ls : List Text) : List Text :=
  ls.zipIdx.map fun (line, i) =>
    if chosen.contains i then splice r payload side firstOnly line else line

/-- A text with the payload inserted at the selected lines. Inside a line, the first selection
touches one match and the others touch every match of the line. -/
def insert (s payload : Text) (inline : Bool) (r : Pattern) (which : Which) (side : Side) : Text :=
  let ls := Text.lines s
  let chosen := selected r ls which
  if chosen.isEmpty then s
  else if inline then
    Text.unlines (insertInline r payload side (which == .first) chosen ls)
  else Text.unlines (insertLines payload side chosen ls)

end Edit

end Scaffold
