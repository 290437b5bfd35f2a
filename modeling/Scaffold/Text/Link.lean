import Scaffold.Pattern.Parser
import Scaffold.Pattern.Search
import Scaffold.Text.Blank
import Scaffold.Text.Search

/-!
# Links in text

Addresses in escaped text, made into links. An address is a word; the signs around it that
belong to the sentence are left out of the link.
-/

namespace Scaffold

namespace Text

/-- How links are made. -/
structure Linking where
  /-- Longer addresses are cut for show. -/
  mostShown : Option Int
  /-- Further attributes of a link, escaped. -/
  relation : Option Text
  target : Option Text
  /-- Further beginnings that make a word an address. -/
  schemes : List Text
deriving DecidableEq, Repr

namespace Linking

/-- What an address on the web looks like. -/
def webSource : String :=
  "(?i)^((https?://|www\\.)(([\\w%-]+\\.)+)?([a-z]\x7b2,63\x7d|xn--[\\w%]\x7b2,59\x7d)" ++
  "|([\\w%-]\x7b2,63\x7d\\.)+(com|net|int|edu|gov|org|info|mil)" ++
  "|(https?://)((([\\d]\x7b1,3\x7d)(\\.[\\d]\x7b1,3\x7d)\x7b3\x7d)" ++
    "|(\\[([\\da-f]\x7b0,4\x7d:)\x7b2\x7d([\\da-f]\x7b0,4\x7d:?)\x7b1,6\x7d])))" ++
  "(?::[\\d]\x7b1,5\x7d)?(?:[/?#]\\S*)?$"

/-- What an address for mail looks like. -/
def mailSource : String := "^\\S+@\\w[\\w.-]*\\.\\w+$"

/-- What the beginning of an address can be. -/
def schemeSource : String := "^[\\w.+-]\x7b2,\x7d:/\x7b0,2\x7d\\Z"

/-- Whether a text looks as told. -/
def looksLike (source : String) (s : Text) : Bool :=
  match Pattern.compile (of source) with
  | .ok pattern => pattern.isFound s
  | .error _ => false

/-- The signs that can stand in front of an address. -/
def openings : List Text := [['('], ['<'], of "&lt;"]

/-- The signs that can stand behind an address. -/
def closings : List Text := [[')'], ['>'], ['.'], [','], ['\n'], of "&gt;"]

/-- As many of some signs as a text begins with, and the rest. -/
def leadingSigns (signs : List Text) : (fuel : Nat) → Text → Text × Text
  | 0, s => ([], s)
  | fuel + 1, s =>
    match signs.find? (startsWith s) with
    | some sign =>
      let (more, rest) := leadingSigns signs fuel (s.drop sign.length)
      (sign ++ more, rest)
    | none => ([], s)

/-- A text and as many of some signs as it ends with. -/
def trailingSigns (signs : List Text) (s : Text) : Text × Text :=
  let (tail, middle) := leadingSigns (signs.map List.reverse) s.length s.reverse
  (middle.reverse, tail.reverse)

/-- Take as much of a tail back as has so many closing signs. -/
def takeBack (closing : Text) : (count : Nat) → Text × Text → Text × Text
  | 0, parts => parts
  | count + 1, (middle, tail) =>
    match cutAt? closing tail with
    | some (before, rest) => takeBack closing count (middle ++ before ++ closing, rest)
    | none => (middle, tail)

/-- An address and its tail, with closing signs taken back that match opening ones in it. -/
def balanced (parts : Text × Text) : Text × Text :=
  [(['('], [')']), (['<'], ['>']), (of "&lt;", of "&gt;")].foldl (fun (middle, tail) (a, b) =>
    let opened := countOf a middle
    if opened ≤ countOf b middle then (middle, tail)
    else takeBack b (min opened (countOf b tail)) (middle, tail)) parts

/-- An address as it is shown. -/
def shown (l : Linking) (address : Text) : Text :=
  match l.mostShown with
  | some n =>
    if n < address.length then
      address.take (if n < 0 then (address.length + n).toNat else n.toNat) ++ of "..."
    else address
  | none => address

/-- A link to an address. -/
def link (attributes address shown : Text) : Text :=
  of "<a href=\"" ++ address ++ '"' :: attributes ++ '>' :: shown ++ of "</a>"

/-- An attribute with a value, if there is one. -/
def setting (name : String) (value : Option Text) : Text :=
  match value with
  | some v => ' ' :: of name ++ of "=\"" ++ v ++ ['"']
  | none => []

/-- An address as a link, or as it is if it does not look like one. -/
def linked (l : Linking) (address : Text) : Text :=
  let attributes := setting "rel" l.relation ++ setting "target" l.target
  if looksLike webSource address then
    let isWhole := startsWith address (of "https://") || startsWith address (of "http://")
    link attributes (if isWhole then address else of "https://" ++ address) (l.shown address)
  else if startsWith address (of "mailto:") && looksLike mailSource (address.drop 7) then
    link [] address (address.drop 7)
  else if address.contains '@' && !startsWith address (of "www.") &&
      !startsWith address ['@'] && !address.contains ':' && looksLike mailSource address then
    link [] (of "mailto:" ++ address) address
  else l.schemes.foldl (fun address scheme =>
    if address != scheme && startsWith address scheme then link attributes address address
    else address) address

/-- A word with the address in it made a link. -/
def linkedWord (l : Linking) (word : Text) : Text :=
  let (head, rest) := leadingSigns openings word.length word
  let (middle, tail) := balanced (trailingSigns closings rest)
  head ++ l.linked middle ++ tail

/-- A text cut into words and the blanks between them. -/
def words : Text → List (Bool × Text)
  | [] => []
  | c :: s => match words s with
    | (blank, part) :: rest =>
      if blank = isBlank c then (blank, c :: part) :: rest
      else (isBlank c, [c]) :: (blank, part) :: rest
    | [] => [(isBlank c, [c])]

/-- An escaped text with the addresses in it made links. -/
def linkedText (l : Linking) (s : Text) : Text :=
  (words s).flatMap fun (blank, part) => if blank then part else l.linkedWord part

end Linking

end Text

end Scaffold
