import Scaffold.Template.Parser.Basic

/-!
# Parsing templates: expressions

From the weakest binding to the strongest: choice, `or`, `and`, `not`, comparison, sum, joining,
product, power, sign; then members, items, calls, filters and tests.
-/

namespace Scaffold

namespace Template

namespace Parser

/-! ### Arguments -/

/-- How far a list of arguments has come. -/
structure ArgumentsSoFar where
  /-- Last ones first. -/
  taken : List (Argument Expr)
  hasNamed : Bool
  hasSpread : Bool
  hasSpreadNamed : Bool

/-- One more argument. Arguments without a name come first. -/
def argument (r : Rules) (a : ArgumentsSoFar) : Parser ArgumentsSoFar := do
  if ← skipIf (isSign .star) then
    if a.hasSpread || a.hasSpreadNamed then failure
    let e ← r.expr
    return { a with taken := .spread e :: a.taken, hasSpread := true }
  else if ← skipIf (isSign .doubleStar) then
    if a.hasSpreadNamed then failure
    let e ← r.expr
    return { a with taken := .spreadNamed e :: a.taken, hasSpreadNamed := true }
  else if (← nextIs fun t => t matches .name _) && (← secondIs (isSign .assign)) then
    if a.hasSpreadNamed then failure
    let key ← name
    expect (isSign .assign)
    let e ← r.expr
    return { a with taken := .named key e :: a.taken, hasNamed := true }
  else
    if a.hasSpread || a.hasSpreadNamed || a.hasNamed then failure
    let e ← r.expr
    return { a with taken := .positional e :: a.taken }

/-- Arguments in brackets. -/
def arguments (r : Rules) : Parser (List (Argument Expr)) := do
  expect (isSign .openRound)
  let a ← steps (fun (a : ArgumentsSoFar) => do
    if ← nextIs (isSign .closeRound) then return none
    if !a.taken.isEmpty then expect (isSign .comma)
    if ← nextIs (isSign .closeRound) then return none
    return some (← argument r a)) ⟨[], false, false, false⟩
  expect (isSign .closeRound)
  return a.taken.reverse

/-! ### Tuples -/

/-- Whether a tuple that is not in brackets ends here. -/
def tupleEnds (words : List String) : Parser Bool :=
  nextIs fun t => match t with
    | .printEnd | .tagEnd | .sign .closeRound => true
    | t => isOneOf words t

/-- One item, or several with commas between them. The flag tells whether there was a comma. -/
def itemsUpTo {α : Type} (words : List String) (item : Parser α) : Parser (List α × Bool) := do
  if ← tupleEnds words then return ([], false)
  let first ← item
  let (items, isTuple) ← steps (fun (p : List α × Bool) => do
    if ← skipIf (isSign .comma) then
      if ← tupleEnds words then return some (p.1, true)
      else return some ((← item) :: p.1, true)
    else return none) ([first], false)
  return (items.reverse, isTuple)

/-- An expression, or a tuple of several. The names are words that may stand behind it. -/
def tuple (words : List String) (item : Parser Expr) : Parser Expr := do
  match ← itemsUpTo words item with
  | ([], _) => failure
  | ([e], false) => return e
  | (es, _) => return .tuple es

/-- What stands in round brackets: an expression or a tuple, which may be empty. -/
def bracketed (r : Rules) : Parser Expr := do
  let e ← do
    match ← itemsUpTo [] r.expr with
    | ([e], false) => pure e
    | (es, _) => pure (Expr.tuple es)
  expect (isSign .closeRound)
  return e

/-! ### The strongest bindings -/

/-- The value of a name that is always bound to it. -/
def fixedName? (s : Text) : Option Expr :=
  if s = Text.of "true" || s = Text.of "True" then some (.bool true)
  else if s = Text.of "false" || s = Text.of "False" then some (.bool false)
  else if s = Text.of "none" || s = Text.of "None" then some .null
  else none

/-- Strings that follow a string and are one with it. -/
def moreStrings : List Token → Text × List Token
  | .string s :: ts => let (t, ts) := moreStrings ts; (s ++ t, ts)
  | ts => ([], ts)

/-- A key and a value. -/
def entry (r : Rules) : Parser (Expr × Expr) := do
  let key ← r.expr
  expect (isSign .colon)
  let value ← r.expr
  return (key, value)

/-- A name, a literal, or something in brackets. -/
def primary (r : Rules) : Parser Expr := do
  match ← next with
  | .name s => return (fixedName? s).getD (.name s)
  | .string s => fun ts => let (t, ts) := moreStrings ts; some (.string (s ++ t), ts)
  | .integer n => return .integer n
  | .float x => return .float x
  | .sign .openRound => bracketed r
  | .sign .openSquare => return .list (← listUpTo .closeSquare r.expr)
  | .sign .openCurly => return .map (← listUpTo .closeCurly (entry r))
  | _ => failure

/-- A bound of a slice that may be left out. -/
def bound (r : Rules) : Parser (Option Expr) := do
  if ← nextIs fun t => isSign .colon t || isSign .closeSquare t || isSign .comma t then
    return none
  return some (← r.expr)

/-- An index or a slice. -/
def subscript (r : Rules) : Parser Expr := do
  let start ← bound r
  if ← skipIf (isSign .colon) then
    let stop ← bound r
    let step ← if ← skipIf (isSign .colon) then bound r else pure none
    return .slice start stop step
  else match start with
    | some e => return e
    | none => failure

/-- Indices in square brackets. Several of them are a tuple. -/
def subscripts (r : Rules) : Parser Expr := do
  let items ← steps (fun (items : List Expr) => do
    if ← nextIs (isSign .closeSquare) then return none
    if !items.isEmpty then expect (isSign .comma)
    return some ((← subscript r) :: items)) []
  expect (isSign .closeSquare)
  match items with
  | [e] => return e
  | es => return .tuple es.reverse

/-- A member or an item, or a call. -/
def postfixOnce (r : Rules) (e : Expr) : Parser (Option Expr) := do
  if ← skipIf (isSign .dot) then
    match ← next with
    | .name s => return some (.member e s)
    | .integer n => return some (.item e (.integer n))
    | _ => failure
  else if ← skipIf (isSign .openSquare) then return some (.item e (← subscripts r))
  else if ← nextIs (isSign .openRound) then return some (.call e (← arguments r))
  else return none

/-- Members, items and calls. -/
def withPostfixes (r : Rules) (e : Expr) : Parser Expr := steps (postfixOnce r) e

/-- A name with dots in it. -/
def dottedName : Parser Text := do
  let first ← name
  steps (fun s => do
    if ← skipIf (isSign .dot) then return some (s ++ '.' :: (← name)) else return none) first

/-- A filter without the bar in front of it. -/
def filterOn (r : Rules) (subject : Option Expr) : Parser Expr := do
  let s ← dottedName
  let args ← if ← nextIs (isSign .openRound) then arguments r else pure []
  return .filter subject s args

/-- Whether a token can begin the argument of a test that has no brackets. -/
def beginsTestArgument : Token → Bool
  | .string _ | .integer _ | .float _ | .sign .openSquare | .sign .openCurly => true
  | .name s => !isOneOf ["else", "or", "and"] (.name s)
  | _ => false

/-- A test, with `is` already taken. -/
def testOn (r : Rules) (e : Expr) : Parser Expr := do
  let negated ← skipIf (isWord "not")
  let s ← dottedName
  let args ←
    if ← nextIs (isSign .openRound) then arguments r
    else if ← nextIs beginsTestArgument then do
      if ← nextIs (isWord "is") then failure
      let arg ← withPostfixes r (← primary r)
      pure [Argument.positional arg]
    else pure []
  let test := Expr.test e s args
  return if negated then .unary .not test else test

/-- A filter, a test, or a call. -/
def suffixOnce (r : Rules) (e : Expr) : Parser (Option Expr) := do
  if ← skipIf (isSign .bar) then return some (← filterOn r (some e))
  else if ← skipIf (isWord "is") then return some (← testOn r e)
  else if ← nextIs (isSign .openRound) then return some (.call e (← arguments r))
  else return none

/-- An operand with its signs, members, items and calls. -/
def operand (r : Rules) : Parser Expr := do
  let e ←
    if ← skipIf (isSign .minus) then do pure (Expr.unary .minus (← r.operand))
    else if ← skipIf (isSign .plus) then do pure (Expr.unary .plus (← r.operand))
    else primary r
  withPostfixes r e

/-- An operand with its filters and tests. -/
def filteredOperand (r : Rules) : Parser Expr := do steps (suffixOnce r) (← operand r)

/-! ### Operators -/

/-- Operands joined by power signs. -/
def power (r : Rules) : Parser Expr :=
  chain (filteredOperand r) (signOperator [(.doubleStar, .pow)])

/-- Operands joined by signs of multiplication and division. -/
def product (r : Rules) : Parser Expr :=
  chain (power r) (signOperator
    [(.star, .mul), (.slash, .div), (.doubleSlash, .floorDiv), (.percent, .mod)])

/-- Operands put together as text. -/
def joined (r : Rules) : Parser Expr := do
  let first ← product r
  let parts ← steps (fun (parts : List Expr) => do
    if ← skipIf (isSign .tilde) then return some ((← product r) :: parts) else return none) [first]
  match parts with
  | [e] => return e
  | es => return .joined es.reverse

/-- Operands joined by signs of addition and subtraction. -/
def sum (r : Rules) : Parser Expr :=
  chain (joined r) (signOperator [(.plus, .add), (.minus, .sub)])

/-- The comparison that a sign stands for. -/
def comparisonOf? : Sign → Option Comparison
  | .equal => some .eq
  | .notEqual => some .ne
  | .less => some .lt
  | .lessEqual => some .le
  | .greater => some .gt
  | .greaterEqual => some .ge
  | _ => none

/-- A comparison, if one comes next. -/
def comparisonSign : Parser (Option Comparison)
  | .sign s :: ts =>
    match comparisonOf? s with
    | some c => some (some c, ts)
    | none => some (none, .sign s :: ts)
  | t :: u :: ts =>
    if isWord "in" t then some (some .isIn, u :: ts)
    else if isWord "not" t && isWord "in" u then some (some .notIn, ts)
    else some (none, t :: u :: ts)
  | ts => some (none, ts)

/-- Operands with comparisons between them. -/
def comparison (r : Rules) : Parser Expr := do
  let first ← sum r
  let rest ← steps (fun (rest : List (Comparison × Expr)) => do
    match ← comparisonSign with
    | some c => return some ((c, ← sum r) :: rest)
    | none => return none) []
  if rest.isEmpty then return first else return .compare first rest.reverse

/-- A comparison, or the negation of something. -/
def negation (r : Rules) : Parser Expr := do
  if ← skipIf (isWord "not") then return .unary .not (← r.negation) else comparison r

/-- Everything but a choice. -/
def disjunction (r : Rules) : Parser Expr :=
  chain (chain (negation r) (wordOperator "and" .both)) (wordOperator "or" .either)

/-- Any expression. -/
def expression (r : Rules) : Parser Expr := do
  let first ← disjunction r
  steps (fun yes => do
    if ← skipIf (isWord "if") then
      let test ← disjunction r
      if ← skipIf (isWord "else") then return some (.choice test yes (some (← r.expr)))
      else return some (.choice test yes none)
    else return none) first

end Parser

end Template

end Scaffold
