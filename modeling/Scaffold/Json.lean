import Scaffold.Text.Integer
import Scaffold.Text.Quoted

/-!
# JSON

The part of JSON that is written here: a document on one line, or spread over lines with every
level indented. Everything outside printable ASCII is escaped.
-/

namespace Scaffold

/-- A JSON document. Numbers are kept as they are written. -/
inductive Json where
  | null
  | bool (b : Bool)
  | number (written : Text)
  | text (s : Text)
  | list (items : List Json)
  | object (members : List (Text × Json))
deriving Repr, Inhabited

namespace Json

/-- A unit of sixteen bits, escaped. -/
def unit (n : Nat) : Text := '\\' :: 'u' :: Text.hexDigits 4 n

/-- A character in a string. Characters beyond sixteen bits are two units. -/
def escapeChar (c : Char) : Text :=
  let n := c.toNat
  if c = '"' || c = '\\' then ['\\', c]
  else if 32 ≤ n && n ≤ 126 then [c]
  else if c = '\n' then ['\\', 'n']
  else if c = '\r' then ['\\', 'r']
  else if c = '\t' then ['\\', 't']
  else if n = 8 then ['\\', 'b']
  else if n = 12 then ['\\', 'f']
  else if n < 0x10000 then unit n
  else unit (0xd800 + (n - 0x10000) / 0x400) ++ unit (0xdc00 + (n - 0x10000) % 0x400)

/-- A string. -/
def quoted (s : Text) : Text := '"' :: s.flatMap escapeChar ++ ['"']

/-- How the parts of a document are set apart. -/
structure Layout where
  /-- What each level is indented by, or everything on one line. -/
  indent : Option Text
deriving DecidableEq, Repr

/-- Everything on one line. -/
def oneLine : Layout := ⟨none⟩

/-- A line for every part, with two blanks for every level. -/
def spread : Layout := ⟨some [' ', ' ']⟩

/-- A line break and the blanks that a line at a level begins with. -/
def Layout.newLine (l : Layout) (level : Nat) : Text :=
  match l.indent with
  | none => []
  | some blanks => '\n' :: (List.replicate level blanks).flatten

/-- Parts between brackets. -/
def Layout.bracket (l : Layout) (level : Nat) (opening closing : Char) (parts : List Text) : Text :=
  if parts.isEmpty then [opening, closing]
  else
    let separator := match l.indent with
      | none => [',', ' ']
      | some _ => ',' :: l.newLine (level + 1)
    opening :: l.newLine (level + 1) ++ Text.join separator parts ++ l.newLine level ++ [closing]

mutual

/-- A document at a level. -/
def writtenAt (l : Layout) (level : Nat) : Json → Text
  | null => Text.of "null"
  | bool b => Text.of (if b then "true" else "false")
  | number written => written
  | text s => quoted s
  | list items => l.bracket level '[' ']' (writtenItems l (level + 1) items)
  | object members => l.bracket level '\x7b' '\x7d' (writtenMembers l (level + 1) members)

/-- The items of a list at a level. -/
def writtenItems (l : Layout) (level : Nat) : List Json → List Text
  | [] => []
  | item :: items => writtenAt l level item :: writtenItems l level items

/-- The members of an object at a level. -/
def writtenMembers (l : Layout) (level : Nat) : List (Text × Json) → List Text
  | [] => []
  | (key, value) :: members =>
    (quoted key ++ ':' :: ' ' :: writtenAt l level value) :: writtenMembers l level members

end

/-- A document as text. -/
def written (l : Layout) (j : Json) : Text := writtenAt l 0 j

end Json

end Scaffold
