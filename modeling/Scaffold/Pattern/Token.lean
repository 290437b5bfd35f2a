import Scaffold.Text.Basic

/-!
# Tokens of a pattern

A pattern is read as a row of tokens: a character that stands for itself or steers the
reading, or a character behind a backslash. A backslash at the end has nothing to escape.
-/

namespace Scaffold

namespace Pattern

/-- A token of a written pattern. -/
inductive Token
  | plain (c : Char)
  | escaped (c : Char)
deriving DecidableEq, Repr

namespace Token

/-- How the token is written. -/
def text : Token → Text
  | plain c => [c]
  | escaped c => ['\\', c]

/-- The tokens of a pattern. -/
def scan? : Text → Option (List Token)
  | [] => some []
  | ['\\'] => none
  | '\\' :: c :: rest => (scan? rest).map (escaped c :: ·)
  | c :: rest => (scan? rest).map (plain c :: ·)

end Token

end Pattern

end Scaffold
