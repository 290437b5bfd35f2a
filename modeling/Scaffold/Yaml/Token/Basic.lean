import Scaffold.Yaml.Cursor

/-!
# Tokens

A YAML text as a row of tokens. Indentation is made explicit: the beginnings and ends of block
collections are tokens of their own, and so is the beginning of a key, whether a question mark
introduced it or only the colon behind it gave it away.
-/

namespace Scaffold

namespace Yaml

/-- How a tag is written: a handle to be looked up, if there is one, and the rest. -/
structure WrittenTag where
  handle : Option Text
  suffix : Text
deriving DecidableEq, Repr

/-- A directive of the document. -/
inductive Setting
  | version (major minor : Nat)
  | tag (handle start : Text)
  | other
deriving DecidableEq, Repr

/-- A token. -/
inductive Token
  | setting (s : Setting)
  | documentStart
  | documentEnd
  | streamEnd
  | blockSequence
  | blockMapping
  | blockEnd
  | openBracket
  | closeBracket
  | openBrace
  | closeBrace
  | comma
  | entry
  | key
  | value
  | alias (name : Text)
  | anchor (name : Text)
  | tag (t : WrittenTag)
  /-- A scalar. Only a plain one can be something else than text by its look. -/
  | scalar (s : Text) (plain : Bool)
deriving DecidableEq, Repr

end Yaml

end Scaffold
