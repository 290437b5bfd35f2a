import Scaffold.Text.Search

/-!
# Reading arguments

Options and other words of a command line. A long option begins with two dashes and may have its
value behind an equals sign; short ones are letters behind one dash, several of which can stand
together. Two dashes alone end the options.
-/

namespace Scaffold

namespace Command

/-- An option and its names. -/
structure OptionName (κ : Type) where
  key : κ
  short : Option Char
  long : List String
  takesValue : Bool

variable {κ : Type}

/-- The option with a long name. -/
def withLong? (options : List (OptionName κ)) (name : Text) : Option (OptionName κ) :=
  options.find? fun o => o.long.any fun l => Text.of l = name

/-- The option with a letter. -/
def withShort? (options : List (OptionName κ)) (c : Char) : Option (OptionName κ) :=
  options.find? fun o => o.short = some c

/-- An option with its value behind it. A value may be the next word, whatever it looks like. -/
def longOption (o : OptionName κ) (attached : Option Text) (rest : List Text) :
    Option (List (κ × Text) × List Text) :=
  match o.takesValue, attached, rest with
  | true, some value, rest => some ([(o.key, value)], rest)
  | true, none, value :: rest => some ([(o.key, value)], rest)
  | true, none, [] => none
  | false, none, rest => some ([(o.key, [])], rest)
  | false, some _, _ => none

/-- Letters for options. What stands behind the letter of one that takes a value is its value. -/
def shortOptions (options : List (OptionName κ)) : Text → List Text →
    Option (List (κ × Text) × List Text)
  | [], rest => some ([], rest)
  | c :: cs, rest =>
    match withShort? options c with
    | none => none
    | some o =>
      if o.takesValue then longOption o (if cs.isEmpty then none else some cs) rest
      else (shortOptions options cs rest).map fun (given, rest) => ((o.key, []) :: given, rest)

/-- A long option and the value attached to it. -/
def splitAttached (word : Text) : Text × Option Text :=
  match Text.cutAt? ['='] word with
  | some (name, value) => (name, some value)
  | none => (word, none)

/-- The options that a word stands for. -/
def optionsOf (options : List (OptionName κ)) (word : Text) (rest : List Text) :
    Option (List (κ × Text) × List Text) :=
  let (name, attached) := splitAttached word
  match withLong? options name with
  | some o => longOption o attached rest
  | none => if Text.startsWith word ['-', '-'] then none else shortOptions options word.tail rest

/-- The options among words and the other words. If they may not be mixed, options end at the
first other word. -/
def scan (options : List (OptionName κ)) (mixed : Bool) : (fuel : Nat) → List Text →
    Option (List (κ × Text) × List Text)
  | 0, words => some ([], words)
  | _, [] => some ([], [])
  | fuel + 1, word :: rest =>
    if word = ['-', '-'] then some ([], rest)
    else if word.head? = some '-' && 1 < word.length then do
      let (given, rest) ← optionsOf options word rest
      let (more, words) ← scan options mixed fuel rest
      return (given ++ more, words)
    else if mixed then do
      let (given, words) ← scan options mixed fuel rest
      return (given, word :: words)
    else some ([], word :: rest)

/-- The options among words and the other words, or nothing if an option is not one of the given
ones, lacks its value, or has one that it does not take. -/
def scanAll (options : List (OptionName κ)) (mixed : Bool) (words : List Text) :
    Option (List (κ × Text) × List Text) :=
  scan options mixed (words.length + 1) words

end Command

end Scaffold
