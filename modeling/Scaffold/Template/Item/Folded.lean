import Scaffold.Template.Item.Written
import Scaffold.Text.Blank
import Scaffold.Text.Lines

/-!
# Items folded into lines

An item that is shown on one line when it fits there, and over several otherwise. A collection is
broken between its parts. A text is broken between its lines, and a line that is still too wide
behind its blanks.

What fits is told by three widths: what stands in front of the item, what has to follow it on its
last line, and its own.
-/

namespace Scaffold

namespace Template

namespace Item

/-- How wide lines may become. -/
def lineWidth : Nat := 80

/-- A line break, and blanks in front of what follows. -/
def brokenAt (indent : Nat) : Text := '\n' :: List.replicate indent ' '

/-! ### Texts -/

/-- The words of a line, each with the blanks behind it. -/
def blankEndedWords : Text → List Text
  | [] => []
  | c :: rest => match blankEndedWords rest with
    | [] => [[c]]
    | word :: words =>
      if Text.isBlank c && !Text.isBlank (word.headD ' ') then [c] :: word :: words
      else (c :: word) :: words

/-- As many words as fit in quotes on a line, then as many of the others, and so on. What follows
the last word on its line is wide as told. -/
def packedWords (indent following : Nat) : (line : Text) → List Text → List Text
  | line, [] => if line.isEmpty then [] else [Text.quoted line]
  | line, word :: words =>
    let rest := if words.isEmpty then following else 0
    if lineWidth < (Text.quoted (line ++ word)).length + indent + rest then
      (if line.isEmpty then [] else [Text.quoted line]) ++ packedWords indent following word words
    else packedWords indent following (line ++ word) words

/-- The lines of a text in quotes, broken where they are too wide. -/
def packedLines (indent following : Nat) : List Text → List Text
  | [] => []
  | line :: lines =>
    let rest := if lines.isEmpty then following else 0
    (if (Text.quoted line).length + indent + rest ≤ lineWidth then [Text.quoted line]
      else packedWords indent rest [] (blankEndedWords line)) ++ packedLines indent following lines

/-- A text over several lines. One that is not part of anything gets brackets. -/
def foldedText (isWhole : Bool) (indent following : Nat) (s : Text) : Text :=
  let extra := if isWhole then 1 else 0
  match packedLines (indent + extra) (following + extra) (Text.keptLines s) with
  | [part] => part
  | parts =>
    let body := Text.join (brokenAt (indent + extra)) parts
    if isWhole then '(' :: body ++ [')'] else body

/-! ### Collections -/

/-- Parts on lines of their own. Each part is told whether anything follows it. -/
def foldedParts {α : Type} (indent following : Nat)
    (part : (following : Nat) → α → Except Fault Text) : List α → Except Fault Text
  | [] => .ok []
  | [x] => part following x
  | x :: xs => do
    return (← part 1 x) ++ ',' :: brokenAt indent ++ (← foldedParts indent following part xs)

/-- An item between what stands in front of it and what follows it. -/
def foldedIn (cells : Array Cell) : (fuel : Nat) → (isWhole : Bool) → (indent following : Nat) →
    Item → Except Fault Text
  | 0, _, _, _, _ => .error .tooDeep
  | fuel + 1, isWhole, indent, following, item => do
    let s ← item.shown cells
    if s.length + indent + following ≤ lineWidth then return s
    let parts (closing : Nat) := foldedParts (indent + 1) (following + closing)
      (foldedIn cells fuel false (indent + 1))
    match item with
    | text false s => return foldedText isWhole indent following s
    | tuple false items =>
      let closing := if items.length = 1 then [',', ')'] else [')']
      return '(' :: (← parts closing.length items) ++ closing
    | ref a => match cells[a]? with
      | some (.list items) => return '[' :: (← parts 1 items) ++ [']']
      | some (.map entries) =>
        let entry (following : Nat) (e : Item × Item) : Except Fault Text := do
          let key ← e.1.shown cells
          return key ++ ':' :: ' ' ::
            (← foldedIn cells fuel false (indent + key.length + 3) following e.2)
        return '\x7b' :: (← foldedParts (indent + 1) (following + 1) entry entries) ++ ['\x7d']
      | _ => return s
    | _ => return s

/-- An item folded into lines. -/
def folded (cells : Array Cell) (item : Item) : Except Fault Text :=
  foldedIn cells depth true 0 0 item

end Item

end Template

end Scaffold
