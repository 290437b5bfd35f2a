import Scaffold.Text.Basic

/-!
# Spellings of names

A name made of words can be spelt `snake_case`, `kebab-case`, `PascalCase` or
`lowerCamelCase`. Every spelling is accepted as input: it is taken apart into its words first.

Words are made of ASCII letters and digits; everything else separates them. Inside a run of
letters and digits a word begins at a capital that follows a small letter or a digit, and at the
last capital of several that are followed by a small letter.
-/

namespace Scaffold

namespace Words

/-- A small ASCII letter. -/
def isSmall (c : Char) : Bool := 'a' ≤ c && c ≤ 'z'

/-- A capital ASCII letter. -/
def isCapital (c : Char) : Bool := 'A' ≤ c && c ≤ 'Z'

/-- A character that words are made of. -/
def isPart (c : Char) : Bool := isSmall c || isCapital c || c.isDigit

/-- The text with every run of separators as one underscore. `inRun` tells whether the
character before was one. -/
def foldSeparators : (inRun : Bool) → Text → Text
  | _, [] => []
  | inRun, c :: rest =>
    if isPart c then c :: foldSeparators false rest
    else if inRun then foldSeparators true rest
    else '_' :: foldSeparators true rest

/-- The text without underscores at its ends. -/
def trimUnderscores (s : Text) : Text :=
  ((s.dropWhile (· == '_')).reverse.dropWhile (· == '_')).reverse

/-- Whether a word begins at a character, by its neighbours. -/
def beginsWord (previous c : Char) (next : Option Char) : Bool :=
  isCapital c &&
    (isSmall previous || previous.isDigit || (isCapital previous && next.any isSmall))

/-- Underscores where words begin inside a run. -/
def separateWords : (previous : Char) → Text → Text
  | _, [] => []
  | previous, c :: rest =>
    if beginsWord previous c rest.head? then '_' :: c :: separateWords c rest
    else c :: separateWords c rest

/-- The words in small letters with underscores between them. -/
def snakeCase (s : Text) : Text :=
  (separateWords '_' (trimUnderscores (foldSeparators false s))).map Char.toLower

/-- The words in small letters with hyphens between them. -/
def kebabCase (s : Text) : Text := (snakeCase s).map fun c => if c = '_' then '-' else c

/-- A capital for every character behind an underscore, which is dropped. -/
def capitalizeParts : (start : Bool) → Text → Text
  | _, [] => []
  | start, c :: rest =>
    if start then c.toUpper :: capitalizeParts false rest
    else if c = '_' && !rest.isEmpty then capitalizeParts true rest
    else c :: capitalizeParts false rest

/-- The words with a capital each and nothing between them. -/
def pascalCase (s : Text) : Text := capitalizeParts true (snakeCase s)

/-- The same with a small letter at the beginning. -/
def lowerCamelCase (s : Text) : Text :=
  match snakeCase s with
  | [] => []
  | c :: rest => c :: (capitalizeParts true (c :: rest)).drop 1

end Words

end Scaffold
