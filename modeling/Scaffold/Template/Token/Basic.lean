import Scaffold.Text.Basic

/-!
# Tokens of a template

A template is text with tags in it: `\x7b\x7b` and `}}` around an expression, `\x7b%` and `%}`
around a statement. Comments and the blanks inside tags leave no token behind.
-/

namespace Scaffold

namespace Template

/-- An operator or a bracket. -/
inductive Sign
  | plus
  | minus
  | slash
  | doubleSlash
  | star
  | doubleStar
  | percent
  | tilde
  | openSquare
  | closeSquare
  | openRound
  | closeRound
  | openCurly
  | closeCurly
  | equal
  | notEqual
  | greater
  | greaterEqual
  | less
  | lessEqual
  | assign
  | dot
  | colon
  | bar
  | comma
  | semicolon
deriving DecidableEq, Repr

/-- A token. -/
inductive Token
  /-- Text outside tags. -/
  | data (s : Text)
  | printBegin
  | printEnd
  | tagBegin
  | tagEnd
  | name (s : Text)
  | string (s : Text)
  | integer (n : Nat)
  | float (x : Float)
  | sign (s : Sign)
deriving Repr, Inhabited

namespace Sign

/-- The signs of two characters. -/
def ofTwo? (a b : Char) : Option Sign :=
  if a = '/' && b = '/' then some doubleSlash
  else if a = '*' && b = '*' then some doubleStar
  else if b = '=' then
    if a = '=' then some equal
    else if a = '!' then some notEqual
    else if a = '>' then some greaterEqual
    else if a = '<' then some lessEqual
    else none
  else none

/-- The signs of one character. -/
def ofOne? (c : Char) : Option Sign :=
  if c = '+' then some plus
  else if c = '-' then some minus
  else if c = '/' then some slash
  else if c = '*' then some star
  else if c = '%' then some percent
  else if c = '~' then some tilde
  else if c = '[' then some openSquare
  else if c = ']' then some closeSquare
  else if c = '(' then some openRound
  else if c = ')' then some closeRound
  else if c = '\x7b' then some openCurly
  else if c = '\x7d' then some closeCurly
  else if c = '>' then some greater
  else if c = '<' then some less
  else if c = '=' then some assign
  else if c = '.' then some dot
  else if c = ':' then some colon
  else if c = '|' then some bar
  else if c = ',' then some comma
  else if c = ';' then some semicolon
  else none

/-- The longest sign that a text begins with, and the rest. -/
def read? : Text → Option (Sign × Text)
  | [] => none
  | [c] => (ofOne? c).map fun s => (s, [])
  | a :: b :: rest =>
    match ofTwo? a b with
    | some s => some (s, rest)
    | none => (ofOne? a).map fun s => (s, b :: rest)

/-- The bracket that closes a bracket. -/
def closing? : Sign → Option Sign
  | openSquare => some closeSquare
  | openRound => some closeRound
  | openCurly => some closeCurly
  | _ => none

/-- Whether a sign is a closing bracket. -/
def isClosing : Sign → Bool
  | closeSquare | closeRound | closeCurly => true
  | _ => false

end Sign

end Template

end Scaffold
