import Scaffold.Text.Basic

/-!
# Wildcards

Names with wildcards: `*` for any characters, `?` for one, and sets in brackets, negated by an
exclamation mark. A bracket that is never closed stands for itself, and so does a closing
bracket right at the beginning of a set. A range whose ends are in the wrong order holds nothing.
-/

namespace Scaffold

namespace Glob

/-- A part of a pattern. -/
inductive Part
  | char (c : Char)
  | one
  | many
  | set (negated : Bool) (ranges : List (Char × Char))
deriving DecidableEq, Repr

/-- The ranges of a set by what stands between its brackets. A hyphen between two characters
makes a range; the character behind a range begins no other one. -/
def rangesOf : Text → List (Char × Char)
  | a :: '-' :: b :: rest => (a, b) :: rangesOf rest
  | a :: rest => (a, a) :: rangesOf rest
  | [] => []

/-- What stands in a set, and what follows its closing bracket. -/
def splitSet? (s : Text) : Option (Bool × Text × Text) :=
  let (negated, body) := match s with
    | '!' :: rest => (true, rest)
    | _ => (false, s)
  let (first, rest) := match body with
    | ']' :: rest => ([']'], rest)
    | _ => ([], body)
  match rest.dropWhile (· ≠ ']') with
  | [] => none
  | _ :: after => some (negated, first ++ rest.takeWhile (· ≠ ']'), after)

/-- The parts of a written pattern. -/
def partsFrom : (fuel : Nat) → Text → List Part
  | 0, _ => []
  | _, [] => []
  | fuel + 1, c :: rest =>
    if c = '*' then .many :: partsFrom fuel rest
    else if c = '?' then .one :: partsFrom fuel rest
    else if c = '[' then
      match splitSet? rest with
      | some (negated, inside, after) => .set negated (rangesOf inside) :: partsFrom fuel after
      | none => .char c :: partsFrom fuel rest
    else .char c :: partsFrom fuel rest

/-- The parts of a written pattern. -/
def parts (s : Text) : List Part := partsFrom s.length s

/-- Whether a character belongs to a part that stands for one character. -/
def Part.holds (c : Char) : Part → Bool
  | char d => c == d
  | one => true
  | many => false
  | set negated ranges => (ranges.any fun (low, high) => low ≤ c && c ≤ high) != negated

/-- Whether the test holds of the text or of what is left after some characters. -/
def anySuffix (test : Text → Bool) : Text → Bool
  | [] => test []
  | c :: rest => test (c :: rest) || anySuffix test rest

/-- Whether a text matches parts. -/
def matchesParts : List Part → Text → Bool
  | [], s => s.isEmpty
  | .many :: ps, s => anySuffix (matchesParts ps) s
  | p :: ps, s => match s with
    | [] => false
    | c :: rest => p.holds c && matchesParts ps rest

/-- Whether a text matches a written pattern. -/
def isMatch (pattern s : Text) : Bool := matchesParts (parts pattern) s

/-- Whether a written pattern has wildcards at all. -/
def hasWildcard (s : Text) : Bool := s.any fun c => c == '*' || c == '?' || c == '['

end Glob

end Scaffold
