import Scaffold.Words.Case

/-!
# Plurals

The plural of the last word of a name. Rules look at the ending of the word and are tried in
order; the last one, which adds an `s`, always applies. Endings are compared without regard to
case, and what a rule adds is in small letters, apart from the words that change their first
letter.
-/

namespace Scaffold

namespace Words

/-- What has to stand before the ending that a rule replaces. -/
inductive Stem
  | letters (s : String)
  | noneOf (s : String)
deriving DecidableEq, Repr

/-- A rule: a word that ends in one of the stems and one of the endings gets `added` in place
of the ending. Without stems anything may stand before the ending. -/
structure Rule where
  /-- The stem has to be the beginning of the word. -/
  whole : Bool
  stems : List Stem
  endings : List String
  added : String
  /-- The case of the first letter of the ending matters. -/
  strict : Bool
deriving DecidableEq, Repr

/-- A rule for endings. -/
def Rule.ending (stems : List Stem) (endings : List String) (added : String) : Rule :=
  ⟨false, stems, endings, added, false⟩

/-- A rule for whole words. -/
def Rule.word (stems : List Stem) (endings : List String) (added : String) : Rule :=
  ⟨true, stems, endings, added, false⟩

/-- Two rules for a word with a plural of its own, both with the same first letter: the plural
stays, and the singular becomes it. -/
def Rule.irregular (first singular plural : String) : List Rule :=
  [.ending [.letters first] [plural] plural, .ending [.letters first] [singular] plural]

/-- The rules for a word whose plural begins with another letter. -/
def Rule.suppletive (singular plural : String) (capitalSingular capitalPlural : String) :
    List Rule :=
  [⟨false, [], [plural], plural, true⟩, ⟨false, [], [capitalPlural], capitalPlural, true⟩,
   ⟨false, [], [singular], plural, true⟩, ⟨false, [], [capitalSingular], capitalPlural, true⟩]

/-- The rules in the order in which they are tried. -/
def rules : List Rule :=
  Rule.irregular "z" "ombie" "ombies" ++
  Rule.suppletive "cow" "kine" "Cow" "Kine" ++
  Rule.irregular "m" "ove" "oves" ++
  Rule.irregular "s" "ex" "exes" ++
  Rule.irregular "c" "hild" "hildren" ++
  Rule.irregular "h" "uman" "umans" ++
  Rule.irregular "m" "an" "en" ++
  Rule.irregular "p" "erson" "eople" ++
  [.ending [.letters "quiz"] [""] "zes",
   .word [.letters "oxen"] [""] "",
   .word [.letters "ox"] [""] "en",
   .ending [.letters "m", .letters "l"] ["ice"] "ice",
   .ending [.letters "m", .letters "l"] ["ouse"] "ice",
   .ending [.letters "passer"] ["sby", "by"] "sby",
   .ending [.letters "matr", .letters "vert", .letters "ind"] ["ix", "ex"] "ices",
   .ending [.letters "x", .letters "ch", .letters "ss", .letters "sh"] [""] "es",
   .ending [.noneOf "aeiouy", .letters "qu"] ["y"] "ies",
   .ending [.letters "hive"] [""] "s",
   .ending [.letters "l", .letters "r"] ["f"] "ves",
   .ending [.noneOf "f"] ["fe"] "ves",
   .ending [] ["sis"] "ses",
   .ending [.letters "t", .letters "i"] ["a"] "a",
   .ending [.letters "t", .letters "i"] ["um"] "a",
   .ending [.letters "buffal", .letters "potat", .letters "tomat"] ["o"] "oes",
   .ending [.letters "bu"] ["s"] "ses",
   .ending [.letters "alias", .letters "status"] [""] "es",
   .ending [.letters "octop", .letters "vir"] ["i"] "i",
   .ending [.letters "octop", .letters "vir"] ["us"] "i",
   .word [.letters "ax", .letters "test"] ["is"] "es",
   .ending [] ["s"] "s",
   .ending [] [""] "s"]

/-- Words that are their own plural. -/
def uncountable : List String :=
  ["equipment", "fish", "information", "jeans", "money", "rice", "series", "sheep", "species"]

/-- Nouns in `-o` that take `-es`. -/
def oesNouns : List String := ["hero", "echo", "veto", "torpedo", "embargo"]

/-- Small letters for capitals. -/
def small (s : Text) : Text := s.map Char.toLower

/-- Whether what stands before an ending is the stem, or ends in it. -/
def Stem.fits (whole : Bool) (before : Text) : Stem → Bool
  | letters s => if whole then small before = s.toList else s.toList.isSuffixOf (small before)
  | noneOf s => match before.getLast? with
    | some c => !s.toList.contains c.toLower
    | none => false

/-- What stands before the ending, when the word has it. -/
def splitEnding? (strict : Bool) (ending : Text) (word : Text) : Option Text :=
  let before := word.take (word.length - ending.length)
  let tail := word.drop (word.length - ending.length)
  if tail.length = ending.length && small tail = small ending &&
      (!strict || tail.head? = ending.head?) then some before else none

/-- The plural by a rule, when it applies. -/
def Rule.result? (r : Rule) (word : Text) : Option Text :=
  r.endings.findSome? fun ending => do
    let before ← splitEnding? r.strict ending.toList word
    if r.stems.isEmpty || r.stems.any (·.fits r.whole before) then
      some (before ++ r.added.toList)
    else none

/-- The plural by the first rule that applies. -/
def byRules (word : Text) : Text := (rules.findSome? (·.result? word)).getD word

/-- Whether a word is in a list, in any case. -/
def isListed (words : List String) (word : Text) : Bool :=
  words.any fun w => w.toList = small word

/-- The plural of a word. The rules leave every word in `-s` alone; of those the ones in `-us`
are taken for singulars. -/
def pluralWord (word : Text) : Text :=
  if isListed oesNouns word then word ++ ['e', 's']
  else
    let result := if word.isEmpty || isListed uncountable word then word else byRules word
    if result = word && "us".toList.isSuffixOf (small word) then word ++ ['e', 's'] else result

/-- What stands before the last word, and the last word: small letters at the end of the text
with the capital before them, or else capitals at its end. -/
def splitLastWord? (s : Text) : Option (Text × Text) :=
  let reversed := s.reverse
  let letters := reversed.takeWhile isSmall
  if letters.isEmpty then
    let capitals := reversed.takeWhile isCapital
    if capitals.isEmpty then none
    else some ((reversed.drop capitals.length).reverse, capitals.reverse)
  else
    let rest := reversed.drop letters.length
    match rest with
    | c :: more =>
      if isCapital c then some (more.reverse, c :: letters.reverse)
      else some (rest.reverse, letters.reverse)
    | [] => some ([], letters.reverse)

/-- The text with its last word in the plural. One line feed behind the last word is dropped. -/
def plural (s : Text) : Text :=
  let body := if s.getLast? = some '\n' then s.dropLast else s
  match splitLastWord? body with
  | some (before, word) => before ++ pluralWord word
  | none => s

end Words

end Scaffold
