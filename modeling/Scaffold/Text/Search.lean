import Scaffold.Text.Basic

/-!
# Searching in text

Finding, counting, replacing and splitting at the occurrences of a text in another, from the
front or from the back, at most so many times if a limit is given.
-/

namespace Scaffold

namespace Text

/-- How many characters stand before the first occurrence of a text. -/
def indexOf? (part s : Text) : Option Nat := (cutAt? part s).map fun (before, _) => before.length

/-- How many characters stand before the last occurrence of a text. -/
def lastIndexOf? (part s : Text) : Option Nat :=
  (indexOf? part.reverse s.reverse).map fun n => s.length - n - part.length

/-- The parts between occurrences of a text that is not empty, at most `limit` of which are cut
at. -/
def splitAtFirst (separator : Text) : (limit : Nat) → Text → List Text
  | 0, s => [s]
  | limit + 1, s =>
    match cutAt? separator s with
    | some (before, behind) => before :: splitAtFirst separator limit behind
    | none => [s]

/-- The same, with the last occurrences cut at. -/
def splitAtLast (separator : Text) (limit : Nat) (s : Text) : List Text :=
  ((splitAtFirst separator.reverse limit s.reverse).map List.reverse).reverse

/-- The parts between blanks. What is left after `limit` of them is one more part, without the
blanks it begins with. -/
def wordsFrom : (fuel limit : Nat) → Text → List Text
  | 0, _, _ => []
  | fuel + 1, limit, s =>
    let s := trimStart s
    if s.isEmpty then []
    else match limit with
      | 0 => [s]
      | limit + 1 =>
        let word := s.takeWhile fun c => !isBlank c
        word :: wordsFrom fuel limit (s.drop word.length)

/-- The words of a text, cut at blanks from the front. The last one keeps its blanks. -/
def wordsAtFirst (limit : Nat) (s : Text) : List Text :=
  wordsFrom (s.length + 1) limit s

/-- The words of a text, cut at blanks from the back. -/
def wordsAtLast (limit : Nat) (s : Text) : List Text :=
  ((wordsFrom (s.length + 1) limit s.reverse).map List.reverse).reverse

/-- A text between the characters of another, and at both its ends, at most `limit` times. -/
def interleaved (new : Text) : (limit : Nat) → Text → Text
  | 0, s => s
  | _ + 1, [] => new
  | limit + 1, c :: s => new ++ c :: interleaved new limit s

/-- A text with at most `limit` occurrences of a text replaced. -/
def replaced (old new : Text) (limit : Nat) (s : Text) : Text :=
  if old.isEmpty then interleaved new limit s else join new (splitAtFirst old limit s)

/-- A limit as it is given: a negative one is none. -/
def limitOf (s : Text) (n : Int) : Nat := if n < 0 then s.length + 1 else n.toNat

/-- How often a text occurs. -/
def countOf (part s : Text) : Nat :=
  if part.isEmpty then s.length + 1 else (splitAtFirst part (s.length + 1) s).length - 1

/-- A text without characters of a kind at its start. -/
def dropStart (test : Char → Bool) (s : Text) : Text := s.dropWhile test

/-- A text without characters of a kind at its end. -/
def dropEnd (test : Char → Bool) (s : Text) : Text := (s.reverse.dropWhile test).reverse

/-- A text with a character on both sides until it is as long as the width. -/
def centered (width : Int) (filler : Char) (s : Text) : Text :=
  let missing := (width - s.length).toNat
  let left := missing / 2 + (if missing % 2 = 1 && width.toNat % 2 = 1 then 1 else 0)
  List.replicate left filler ++ s ++ List.replicate (missing - left) filler

/-- A text with a character behind it until it is as long as the width. -/
def leftAligned (width : Int) (filler : Char) (s : Text) : Text :=
  s ++ List.replicate (width - s.length).toNat filler

/-- A text with a character in front of it until it is as long as the width. -/
def rightAligned (width : Int) (filler : Char) (s : Text) : Text :=
  List.replicate (width - s.length).toNat filler ++ s

end Text

end Scaffold
