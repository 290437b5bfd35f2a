import Scaffold.Pattern.Parser
import Scaffold.Pattern.Search
import Scaffold.Text.Blank
import Scaffold.Text.Search

/-!
# Breaking lines

A line is cut into chunks, which are blanks or words, and the chunks are put on lines as long as
they fit. Blanks at a break are dropped. A word can be broken behind a hyphen between letters; one
that fits on no line is broken anywhere or stands on a line of its own.
-/

namespace Scaffold

namespace Text

/-- How lines are broken. -/
structure Wrapping where
  width : Nat
  /-- Words that fit on no line are broken. -/
  breaksWords : Bool
  /-- Words are broken behind hyphens. -/
  breaksAtHyphens : Bool
deriving DecidableEq, Repr

namespace Wrapping

/-- What ends a chunk when hyphens count: blanks, a dash between words, or a word up to a hyphen,
a blank or a dash. -/
def chunkSource : String :=
  "[\\t-\\r ]+" ++
  "|(?<=[\\w!\"'&.,?])-\x7b2,\x7d(?=\\w)" ++
  "|[^\\t-\\r ]+?(?:" ++
    "-(?:(?<=[^\\d\\W]\x7b2\x7d-)|(?<=[^\\d\\W]-[^\\d\\W]-))(?=[^\\d\\W]-?[^\\d\\W])" ++
    "|(?=[\\t-\\r ]|\\Z)" ++
    "|(?<=[\\w!\"'&.,?])(?=-\x7b2,\x7d\\w))"

/-- What ends a chunk when only blanks count. -/
def blankSource : String := "[\\t-\\r ]+"

/-- The chunks of a line. -/
def chunks (w : Wrapping) (line : Text) : List Text :=
  let source := if w.breaksAtHyphens then chunkSource else blankSource
  let pieces := match Pattern.compile (of source) with
    | .ok pattern => (pattern.pieces line).map Pattern.Piece.text
    | .error _ => [line]
  pieces.filter fun piece => !piece.isEmpty

/-- As many chunks as fit into what is left of a line, and the others. -/
def fit (room : Nat) : List Text → List Text × List Text
  | [] => ([], [])
  | c :: cs =>
    if c.length ≤ room then
      let (taken, rest) := fit (room - c.length) cs
      (c :: taken, rest)
    else ([], c :: cs)

/-- Where a word is broken that fits on no line: behind its last hyphen, if there is one that
follows something else. -/
def breakOf (w : Wrapping) (room : Nat) (word : Text) : Nat :=
  match lastIndexOf? ['-'] (word.take room) with
  | some n => if w.breaksAtHyphens && (word.take n).any (· != '-') then n + 1 else room
  | none => room

/-- The first line of chunks, and what is left of them. -/
def takeLine (w : Wrapping) (cs : List Text) : List Text × List Text :=
  let (taken, rest) := fit w.width cs
  match rest with
  | [] => (taken, [])
  | word :: more =>
    if word.length ≤ w.width then (taken, rest)
    else
      let room := w.width - taken.flatten.length
      if w.breaksWords then
        let n := if room < word.length then w.breakOf room word else room
        (taken ++ [word.take n], word.drop n :: more)
      else if taken.isEmpty then ([word], more)
      else (taken, rest)

/-- A line without blanks at its end. -/
def dropLastBlank (line : List Text) : List Text :=
  match line.getLast? with
  | some c => if isBlankText c then line.dropLast else line
  | none => []

/-- The lines that chunks are put on. -/
def linesFrom (w : Wrapping) : (fuel : Nat) → (isFirst : Bool) → List Text → List Text
  | 0, _, _ => []
  | _ + 1, _, [] => []
  | fuel + 1, isFirst, c :: cs =>
    let (line, rest) := w.takeLine (if !isFirst && isBlankText c then cs else c :: cs)
    match dropLastBlank line with
    | [] => linesFrom w fuel isFirst rest
    | line => line.flatten :: linesFrom w fuel false rest

end Wrapping

/-- The lines that a line is broken into. Every one of them takes at least a character or ends a
chunk. -/
def wrapped (w : Wrapping) (line : Text) : List Text :=
  w.linesFrom (2 * line.length + 2) true (w.chunks line)

end Text

end Scaffold
