import Scaffold.Template.Parser.Expression
import Scaffold.Template.Token.Source

/-!
# Parsing templates: statements

A tag begins with the name of its statement. Statements with a body go on to a closing tag of
their own.
-/

namespace Scaffold

namespace Template

namespace Parser

/-! ### Targets -/

mutual

/-- An expression as a target, if it can be one. -/
def targetOf? : Expr → Option Target
  | .name s => some (.name s)
  | .tuple es => (targetsOf? es).map .tuple
  | _ => none

/-- Expressions as targets. -/
def targetsOf? : List Expr → Option (List Target)
  | [] => some []
  | e :: es => match targetOf? e, targetsOf? es with
    | some t, some ts => some (t :: ts)
    | _, _ => none

end

/-- A name that can be bound. -/
def bindableName : Parser Text := do
  let s ← name
  if (fixedName? s).isSome then failure else return s

/-- A target that is not a tuple without brackets. -/
def simpleTarget (r : Rules) (withFields : Bool) : Parser Target := do
  if withFields && (← nextIs fun t => t matches .name _) && (← secondIs (isSign .dot)) then
    let object ← bindableName
    expect (isSign .dot)
    return .field object (← name)
  else
    match targetOf? (← primary r) with
    | some t => return t
    | none => failure

/-- A target. The names are words that may stand behind it. -/
def target (r : Rules) (words : List String) (withFields : Bool) : Parser Target := do
  match ← itemsUpTo words (simpleTarget r withFields) with
  | ([], _) => failure
  | ([t], false) => return t
  | (ts, _) => return .tuple ts

/-! ### Bodies -/

/-- The body of a statement, up to a tag that begins with one of the names. The name itself is
not taken. -/
def body (r : Rules) (ends : List String) : Parser (List Stmt) := do
  let _ ← skipIf (isSign .colon)
  expect isTagEnd
  let stmts ← r.body ends
  if ← nextIs fun _ => true then return stmts else failure

/-- The body of a statement with a single closing tag, whose name is taken. -/
def bodyTo (r : Rules) (last : String) : Parser (List Stmt) := do
  let stmts ← body r [last]
  expect (isWord last)
  return stmts

/-! ### Signatures -/

/-- One more parameter. None without a default follows one with a default. -/
def parameter (r : Rules) (parameters : List Text) (defaults : List Expr) :
    Parser (List Text × List Expr) := do
  let s ← bindableName
  if ← skipIf (isSign .assign) then
    let e ← r.expr
    return (s :: parameters, e :: defaults)
  else if defaults.isEmpty then return (s :: parameters, defaults)
  else failure

/-- Parameters in brackets. -/
def signature (r : Rules) : Parser Signature := do
  expect (isSign .openRound)
  let (parameters, defaults) ← steps (fun (p : List Text × List Expr) => do
    if ← nextIs (isSign .closeRound) then return none
    if !p.1.isEmpty then expect (isSign .comma)
    return some (← parameter r p.1 p.2)) ([], [])
  expect (isSign .closeRound)
  return ⟨parameters.reverse, defaults.reverse⟩

/-! ### Statements -/

/-- The statement `for`. -/
def loop (r : Rules) : Parser Stmt := do
  let target ← target r ["in"] false
  expect (isWord "in")
  let source ← tuple ["recursive"] (disjunction r)
  let test ← if ← skipIf (isWord "if") then do pure (some (← r.expr)) else pure none
  let isRecursive ← skipIf (isWord "recursive")
  let stmts ← body r ["endfor", "else"]
  if ← skipIf (isWord "else") then
    return .loop target source test isRecursive stmts (← bodyTo r "endfor")
  else
    expect (isWord "endfor")
    return .loop target source test isRecursive stmts []

/-- A test and the statements it is for. -/
def branch (r : Rules) : Parser (Expr × List Stmt) := do
  let test ← tuple [] (disjunction r)
  let stmts ← body r ["elif", "else", "endif"]
  return (test, stmts)

/-- The statement `if`. -/
def choice (r : Rules) : Parser Stmt := do
  let (test, stmts) ← branch r
  let others ← steps (fun (others : List (Expr × List Stmt)) => do
    if ← skipIf (isWord "elif") then return some ((← branch r) :: others) else return none) []
  if ← skipIf (isWord "else") then
    return .choice test stmts others.reverse (← bodyTo r "endif")
  else
    expect (isWord "endif")
    return .choice test stmts others.reverse []

/-- Filters with a bar in front of each, applied to captured text. -/
def captureFilters (r : Rules) : Parser (Option Expr) := do
  steps (fun (subject : Option Expr) => do
    if ← skipIf (isSign .bar) then return some (some (← filterOn r subject)) else return none) none

/-- The statement `set`. -/
def assignment (r : Rules) : Parser Stmt := do
  let target ← target r [] true
  if ← skipIf (isSign .assign) then return .assign target (← tuple [] r.expr)
  else
    let filters ← captureFilters r
    return .capture target filters (← bodyTo r "endset")

/-- The statement `with`. -/
def binding (r : Rules) : Parser Stmt := do
  let pairs ← steps (fun (pairs : List (Target × Expr)) => do
    if ← nextIs isTagEnd then return none
    if !pairs.isEmpty then expect (isSign .comma)
    let target ← target r [] false
    expect (isSign .assign)
    return some ((target, ← r.expr) :: pairs)) []
  let pairs := pairs.reverse
  return .binding (pairs.map (·.1)) (pairs.map (·.2)) (← bodyTo r "endwith")

/-- Whether a statement is text with nothing but blanks in it. -/
def isBlankStmt : Stmt → Bool
  | .text s => Text.isBlankText s
  | _ => false

/-- The statement `block`. A required one has nothing in it. -/
def block (r : Rules) : Parser Stmt := do
  let s ← name
  let isScoped ← skipIf (isWord "scoped")
  let isRequired ← skipIf (isWord "required")
  let stmts ← bodyTo r "endblock"
  if isRequired && !stmts.all isBlankStmt then failure
  let _ ← skipIf fun t => match t with
    | .name t => t = s
    | _ => false
  return .block s isScoped isRequired stmts

/-- Words that say whether a template sees the names of this one. -/
def contextWords : Parser (Option Bool) := do
  if (← nextIs (isOneOf ["with", "without"])) && (← secondIs (isWord "context")) then
    let isWith ← skipIf (isWord "with")
    let _ ← next
    if !isWith then let _ ← next
    return some isWith
  else return none

/-- The statement `include`. -/
def inclusion (r : Rules) : Parser Stmt := do
  let template ← r.expr
  let ignoreMissing ←
    if (← nextIs (isWord "ignore")) && (← secondIs (isWord "missing")) then do
      let _ ← next
      let _ ← next
      pure true
    else pure false
  return .inclusion template ignoreMissing ((← contextWords).getD true)

/-- The statement `import`. -/
def moduleAs (r : Rules) : Parser Stmt := do
  let template ← r.expr
  expect (isWord "as")
  let s ← bindableName
  return .moduleAs template s ((← contextWords).getD false)

/-- Names taken from a module so far, and what the words behind them say. -/
structure NamesSoFar where
  /-- Last ones first. -/
  names : List (Text × Text)
  withContext : Option Bool
  isDone : Bool

/-- One more name of a module, with the words behind it. -/
def importedName (a : NamesSoFar) : Parser NamesSoFar := do
  match ← contextWords with
  | some withContext => return { a with withContext := some withContext, isDone := true }
  | none =>
    let s ← bindableName
    if s.head? = some '_' then failure
    let inner ← if ← skipIf (isWord "as") then bindableName else pure s
    let names := (s, inner) :: a.names
    match ← contextWords with
    | some withContext => return ⟨names, some withContext, true⟩
    | none => return ⟨names, a.withContext, !(← nextIs (isSign .comma))⟩

/-- The statement `from`. -/
def namesFrom (r : Rules) : Parser Stmt := do
  let template ← r.expr
  expect (isWord "import")
  let a ← steps (fun (a : NamesSoFar) => do
    if a.isDone then return none
    if !a.names.isEmpty then expect (isSign .comma)
    return some (← importedName a)) ⟨[], none, false⟩
  return .namesFrom template a.names.reverse (a.withContext.getD false)

/-- The statement `call`. -/
def callWith (r : Rules) : Parser Stmt := do
  let s ← if ← nextIs (isSign .openRound) then signature r else pure ⟨[], []⟩
  match ← r.expr with
  | .call f args => return .callWith s f args (← bodyTo r "endcall")
  | _ => failure

/-- The statement `macro`. -/
def routine (r : Rules) : Parser Stmt := do
  let s ← bindableName
  let sig ← signature r
  return .routine s sig (← bodyTo r "endmacro")

/-- The statement `print`. -/
def printed (r : Rules) : Parser (List Stmt) := do
  let es ← steps (fun (es : List Expr) => do
    if ← nextIs isTagEnd then return none
    if !es.isEmpty then expect (isSign .comma)
    return some ((← r.expr) :: es)) []
  return es.reverse.map .print

/-- The statement that a tag begins. -/
def statement (r : Rules) : Parser (List Stmt) := do
  let s := Text.string (← name)
  if s = "for" then return [← loop r]
  else if s = "if" then return [← choice r]
  else if s = "set" then return [← assignment r]
  else if s = "block" then return [← block r]
  else if s = "extends" then return [.inherit (← r.expr)]
  else if s = "print" then printed r
  else if s = "macro" then return [← routine r]
  else if s = "include" then return [← inclusion r]
  else if s = "import" then return [← moduleAs r]
  else if s = "from" then return [← namesFrom r]
  else if s = "with" then return [← binding r]
  else if s = "autoescape" then
    let switch ← r.expr
    return [.escaping switch (← bodyTo r "endautoescape")]
  else if s = "call" then return [← callWith r]
  else if s = "filter" then
    let filters ← filterOn r none
    let filters ← steps (fun e => do
      if ← skipIf (isSign .bar) then return some (← filterOn r (some e)) else return none) filters
    return [.filtered filters (← bodyTo r "endfilter")]
  else failure

/-! ### Templates -/

/-- A list of statements so far, last ones first, and whether a closing tag was met. -/
structure BodySoFar where
  taken : List Stmt
  isDone : Bool

/-- One more piece of a body. -/
def piece (r : Rules) (ends : List String) (a : BodySoFar) : Parser (Option BodySoFar) := do
  if a.isDone then return none
  if !(← nextIs fun _ => true) then return none
  match ← next with
  | .data s => return some { a with taken := .text s :: a.taken }
  | .printBegin =>
    let e ← tuple [] r.expr
    expect fun t => t matches .printEnd
    return some { a with taken := .print e :: a.taken }
  | .tagBegin =>
    if ← nextIs (isOneOf ends) then return some { a with isDone := true }
    let stmts ← statement r
    expect isTagEnd
    return some { a with taken := stmts.reverse ++ a.taken }
  | _ => failure

/-- The rules, one level up. -/
def Rules.up (r : Rules) : Rules where
  expr := expression r
  negation := Parser.negation r
  operand := Parser.operand r
  body ends := do return (← steps (piece r ends) ⟨[], false⟩).taken.reverse

/-- The rules for templates that nest up to a depth. -/
def rules : Nat → Rules
  | 0 => ⟨failure, failure, failure, fun _ => failure⟩
  | depth + 1 => Rules.up ⟨fun ts => (rules depth).expr ts, fun ts => (rules depth).negation ts,
      fun ts => (rules depth).operand ts, fun ends ts => (rules depth).body ends ts⟩

end Parser

/-- The statements of a source. -/
def parse? (source : Text) : Option (List Stmt) :=
  (tokens? source).bind fun ts =>
    (((Parser.rules (ts.length + 1)).body []) ts).map (·.1)

end Template

end Scaffold
