import Scaffold.Template.Token.Basic
import Scaffold.Template.Tree

/-!
# Parsing templates: the means

A parser takes tokens from the front of a list, or fails. Rules that refer to themselves are
given the next level of the rules; how deep a template nests is bounded by the number of its
tokens, and so is the number of turns of every loop.
-/

namespace Scaffold

namespace Template

/-- A parser. -/
abbrev Parser (α : Type) := StateT (List Token) Option α

namespace Parser

/-- Whether a token is a sign. -/
def isSign (s : Sign) : Token → Bool
  | .sign t => t = s
  | _ => false

/-- Whether a token is a name with the given spelling. -/
def isWord (word : String) : Token → Bool
  | .name t => t = Text.of word
  | _ => false

/-- Whether a token is one of several names. -/
def isOneOf (words : List String) (t : Token) : Bool := words.any (isWord · t)

/-- Whether a token ends a tag. -/
def isTagEnd : Token → Bool
  | .tagEnd => true
  | _ => false

/-- Whether the next token passes a test. -/
def nextIs (test : Token → Bool) : Parser Bool := fun ts => some (ts.head?.any test, ts)

/-- Whether the token behind the next one passes a test. -/
def secondIs (test : Token → Bool) : Parser Bool := fun ts => some (ts.tail.head?.any test, ts)

/-- The next token. -/
def next : Parser Token
  | [] => none
  | t :: ts => some (t, ts)

/-- Take the next token if it passes a test. -/
def skipIf (test : Token → Bool) : Parser Bool
  | [] => some (false, [])
  | t :: ts => if test t then some (true, ts) else some (false, t :: ts)

/-- Take the next token, which has to pass a test. -/
def expect (test : Token → Bool) : Parser Unit
  | [] => none
  | t :: ts => if test t then some ((), ts) else none

/-- Take the next token, which has to be a name. -/
def name : Parser Text
  | .name s :: ts => some (s, ts)
  | _ => none

/-- Take steps from a value until there is no further one, at most `turns` of them. -/
def stepsFrom {α : Type} (step : α → Parser (Option α)) : (turns : Nat) → α → Parser α
  | 0, a => pure a
  | turns + 1, a => do
    match ← step a with
    | none => pure a
    | some b => stepsFrom step turns b

/-- Take steps from a value until there is no further one. Every step takes a token. -/
def steps {α : Type} (step : α → Parser (Option α)) (a : α) : Parser α := fun ts =>
  stepsFrom step (ts.length + 1) a ts

/-- Operands with operators between them, taken together from the left. -/
def chain (operand : Parser Expr) (operator : Parser (Option (Expr → Expr → Expr))) :
    Parser Expr := do
  let first ← operand
  steps (fun left => do
    match ← operator with
    | none => return none
    | some combine =>
      let right ← operand
      return some (combine left right)) first

/-- An operator that is a name. -/
def wordOperator (word : String) (combine : Expr → Expr → Expr) :
    Parser (Option (Expr → Expr → Expr)) := do
  if ← skipIf (isWord word) then return some combine else return none

/-- One of several operators that are signs. -/
def signOperator (table : List (Sign × Binary)) : Parser (Option (Expr → Expr → Expr))
  | .sign s :: ts =>
    match table.lookup s with
    | some op => some (some (Expr.binary op), ts)
    | none => some (none, .sign s :: ts)
  | ts => some (none, ts)

/-- Items with commas between them up to a closing sign, which is taken too. A comma may stand
behind the last item. -/
def listUpTo {α : Type} (close : Sign) (item : Parser α) : Parser (List α) := do
  let items ← steps (fun items => do
    if ← nextIs (isSign close) then return none
    if !items.isEmpty then expect (isSign .comma)
    if ← nextIs (isSign close) then return none
    return some ((← item) :: items)) ([] : List α)
  expect (isSign close)
  return items.reverse

/-- The rules that refer to themselves. -/
structure Rules where
  /-- Any expression. -/
  expr : Parser Expr
  /-- An expression that `not` can stand in front of. -/
  negation : Parser Expr
  /-- An operand that a sign can stand in front of. -/
  operand : Parser Expr
  /-- Statements up to a tag that begins with one of the given names, or to the end of the
  template when there are none. -/
  body : List String → Parser (List Stmt)

end Parser

end Template

end Scaffold
