import Scaffold.Text.Basic

/-!
# Lines

Line ends are unified to line feeds before anything is looked for line by line. Splitting at
line feeds and joining with them are inverse, so a final line feed, or its absence, survives
every edit that leaves it alone.
-/

namespace Scaffold

namespace Text

/-- Every carriage return, with the line feed behind it if there is one, as one line feed. -/
def unifyNewlines : Text → Text
  | [] => []
  | '\r' :: '\n' :: rest => '\n' :: unifyNewlines rest
  | c :: rest => (if c = '\r' then '\n' else c) :: unifyNewlines rest

/-- The lines of a text. A text that ends with a line feed has an empty last line. -/
def lines (s : Text) : List Text := splitOnChar '\n' s

/-- Lines put together. -/
def unlines (ls : List Text) : Text := join ['\n'] ls

/-- Characters that end a line when lines are counted for people: besides the line ends of
files, the vertical tab, the form feed, three separators, and the line ends of Unicode. -/
def endsLine (c : Char) : Bool :=
  let n := c.toNat
  (10 ≤ n && n ≤ 13) || (28 ≤ n && n ≤ 30) || n == 0x85 || n == 0x2028 || n == 0x2029

/-- The lines of a text by any line end, without them. Nothing follows the last line end. -/
def visibleLines : Text → List Text
  | [] => []
  | '\r' :: '\n' :: rest => [] :: visibleLines rest
  | c :: rest =>
    if endsLine c then [] :: visibleLines rest
    else match rest, visibleLines rest with
      | [], _ => [[c]]
      | _, line :: more => (c :: line) :: more
      | _, [] => [[c]]

/-- The lines of a text by any line end, with their ends kept. -/
def keptLines : Text → List Text
  | [] => []
  | '\r' :: '\n' :: rest => ['\r', '\n'] :: keptLines rest
  | c :: rest =>
    if endsLine c then [c] :: keptLines rest
    else match keptLines rest with
      | line :: more => (c :: line) :: more
      | [] => [[c]]

end Text

end Scaffold
