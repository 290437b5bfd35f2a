import Scaffold.Template.Perform

/-!
# What can go wrong in a tree

Rendering ends with a fault where something in the template does not bear what is done with it.
Which faults these can be is told from the tree alone, whatever the items turn out to be: a name can
only be missing, a sum can be of things that cannot be added, and a call can come to anything.

Two faults are not counted for a tree, as they can come from everywhere: those of the template as
such, and that items nest too deep.

## Main definitions

* `Template.Expr.risks`, `Template.Stmt.risks` — the faults that a tree risks
* `Template.risksOfRendering` — the faults that it risks to be rendered with variables
-/

namespace Scaffold

namespace Template

/-- Every fault that is not one of the template as such. -/
def Fault.ofValues : List Fault :=
  [.unfit, .badValue, .divisionByZero, .tooLarge, .noKey, .noIndex, .noMember, .broken, .refused,
    .repeatedName, .tooDeep]

/-- Whether a whole number has too many digits to be written. -/
def Item.isLong (n : Int) : Bool := decide (Decimal.tenTo Item.mostDigits ≤ n.natAbs)

/-! ### Operations -/

/-- The faults that an operation risks. A percent sign fills the places of a text as well. -/
def Binary.risks : Binary → List Fault
  | .add | .sub | .mul => [.unfit, .badValue, .tooLarge]
  | .div | .floorDiv | .pow => [.unfit, .badValue, .tooLarge, .divisionByZero]
  | .mod => Fault.ofValues

/-- The faults that an operation on one value risks. -/
def Unary.risks : Unary → List Fault
  | .not => []
  | .plus | .minus => [.unfit, .badValue]

/-- The faults that a comparison risks. Equality is defined for all items. -/
def Comparison.risks : Comparison → List Fault
  | .eq | .ne => []
  | _ => [.unfit]

/-! ### Filters and tests -/

/-- Whether a filter makes a text of every item. -/
def Filter.isOfText : Filter → Bool
  | .capitalize | .escape | .forceEscape | .kebabCase | .lower | .lowerCamelCase | .pascalCase
  | .plural | .safe | .snakeCase | .string | .title | .trim | .upper => true
  | _ => false

/-- The most arguments with which it is told what a filter risks. -/
def Filter.mostArguments : Filter → Nat
  | .default => 2
  | .join => 1
  | _ => 0

/-- The faults that a filter risks with no more arguments than that, all of them by position. What
it goes over has to be items. -/
def Filter.risksOfItem : Filter → List Fault
  | .default => []
  | .first | .join | .last | .list | .sort => [.unfit]
  | .count => [.unfit, .badValue]
  | f => if f.isOfText then [] else Fault.ofValues

/-- The faults that a filter risks with so many arguments, all of them by position. One that nobody
knows is a fault of the template. -/
def Filter.risks (f? : Option Filter) (count : Nat) : List Fault :=
  match f? with
  | none => []
  | some f => if count ≤ f.mostArguments then f.risksOfItem else Fault.ofValues

/-- Whether a test has an answer for every item. -/
def Test.isTotal : Test → Bool
  | .boolean | .callable | .defined | .escaped | .false | .float | .integer | .iterable | .lower
  | .mapping | .none | .number | .sequence | .string | .true | .undefined | .upper => Bool.true
  | _ => Bool.false

/-- The faults that a test risks with so many arguments, all of them by position. -/
def Test.risks (t? : Option Test) (count : Nat) : List Fault :=
  match t?, count with
  | .none, _ => []
  | some (.compares c), 1 => c.risks
  | some .sameAs, 1 => []
  | some t, 0 => if t.isTotal then [] else Fault.ofValues
  | _, _ => Fault.ofValues

/-- Whether an argument is given by position, and alone. -/
def Argument.isPositional {ε : Type} : Argument ε → Bool
  | .positional _ => true
  | _ => false

/-- The faults that something risks which is told from the number of its arguments. -/
def risksOfUse (ofCount : Nat → List Fault) (args : List (Argument Expr)) : List Fault :=
  if args.all Argument.isPositional then ofCount args.length else Fault.ofValues

/-! ### Expressions -/

/-- Whether an expression is a string. -/
def Expr.isString : Expr → Bool
  | .string _ => true
  | _ => false

mutual

/-- The faults that an expression risks. -/
def Expr.risks : Expr → List Fault
  | .null | .bool _ | .float _ | .string _ | .name _ => []
  | .integer n => if Item.isLong n then [.badValue] else []
  | .list es | .tuple es | .joined es => risksOfAll es
  | .map es => (if es.all fun e => e.1.isString then [] else [.unfit]) ++ risksOfEntries es
  | .unary op e => op.risks ++ e.risks
  | .binary op a b => op.risks ++ a.risks ++ b.risks
  | .both a b | .either a b => a.risks ++ b.risks
  | .compare e es => e.risks ++ risksOfOperands es
  | .choice t y n => t.risks ++ y.risks ++ risksOfOption n
  | .member e _ => e.risks
  | .item e (.slice a b c) =>
    [.unfit, .badValue] ++ e.risks ++ (risksOfOption a ++ risksOfOption b ++ risksOfOption c)
  | .item e index => e.risks ++ index.risks
  | .slice .. | .call .. => Fault.ofValues
  | .filter s word args =>
    risksOfUse (Filter.risks (Filter.ofName? word)) args ++ risksOfOption s ++ risksOfArguments args
  | .test s word args =>
    risksOfUse (Test.risks (Test.ofName? word)) args ++ s.risks ++ risksOfArguments args

/-- The faults that expressions risk. -/
def Expr.risksOfAll : List Expr → List Fault
  | [] => []
  | e :: es => e.risks ++ risksOfAll es

/-- The faults that an optional expression risks. -/
def Expr.risksOfOption : Option Expr → List Fault
  | none => []
  | some e => e.risks

/-- The faults that entries risk. -/
def Expr.risksOfEntries : List (Expr × Expr) → List Fault
  | [] => []
  | (k, v) :: es => k.risks ++ v.risks ++ risksOfEntries es

/-- The faults that operands risk. -/
def Expr.risksOfOperands : List (Comparison × Expr) → List Fault
  | [] => []
  | (c, e) :: es => c.risks ++ e.risks ++ risksOfOperands es

/-- The faults that an argument risks. -/
def Expr.risksOfArgument : Argument Expr → List Fault
  | .positional e | .named _ e | .spread e | .spreadNamed e => e.risks

/-- The faults that arguments risk. -/
def Expr.risksOfArguments : List (Argument Expr) → List Fault
  | [] => []
  | a :: args => risksOfArgument a ++ risksOfArguments args

end

/-! ### Statements -/

/-- The faults that binding a target risks. What is bound to several has to be as many items. -/
def Target.risks : Target → List Fault
  | .tuple _ => [.unfit, .badValue]
  | _ => []

mutual

/-- The faults that a statement risks. Routines are carried out only where they are called. -/
def Stmt.risks : Stmt → List Fault
  | .text _ | .routine .. => []
  | .print e => e.risks
  | .loop target source test isRecursive body orElse =>
    .unfit :: (if looksAtLoop isRecursive body orElse then [.badValue] else []) ++ target.risks ++
      source.risks ++ Expr.risksOfOption test ++ risksOfAll body ++ risksOfAll orElse
  | .choice test body others orElse =>
    test.risks ++ risksOfAll body ++ risksOfBranches others ++ risksOfAll orElse
  | .assign target value => value.risks ++ target.risks
  | .capture target filters body =>
    (if (Expr.namesOfOption filters).isEmpty then [] else [.broken]) ++ target.risks ++
      Expr.risksOfOption filters ++ risksOfAll body
  | .filtered filters body => .unfit :: filters.risks ++ risksOfAll body
  | .binding targets values body =>
    targets.flatMap Target.risks ++ Expr.risksOfAll values ++ risksOfAll body
  | .escaping switch body => switch.risks ++ risksOfAll body
  | .callWith .. | .block .. | .inherit _ | .inclusion .. | .moduleAs .. | .namesFrom .. =>
    Fault.ofValues

/-- The faults that statements risk. -/
def Stmt.risksOfAll : List Stmt → List Fault
  | [] => []
  | s :: ss => s.risks ++ risksOfAll ss

/-- The faults that branches risk. -/
def Stmt.risksOfBranches : List (Expr × List Stmt) → List Fault
  | [] => []
  | (e, body) :: rest => e.risks ++ risksOfAll body ++ risksOfBranches rest

end

/-! ### Variables -/

/-- The whole numbers in a day. -/
def numbersOfDate (d : Calendar.Date) : List Int := [d.year, d.month, d.day]

/-- The whole numbers in a time. -/
def numbersOfMoment (t : Calendar.Moment) : List Int :=
  numbersOfDate t.date ++ [(t.hour : Int), (t.minute : Int), (t.second : Int), (t.micro : Int)]

mutual

/-- The whole numbers in a value, those of its dates and times as well. -/
def numbersOfValue : Value → List Int
  | .int n => [n]
  | .date d => numbersOfDate d
  | .moment t => numbersOfMoment t
  | .list vs | .tuple vs | .set vs => numbersOfValues vs
  | .map _ es => numbersOfEntries es
  | .null | .bool _ | .float _ | .text _ | .bytes _ | .cycle .. => []

/-- The whole numbers in values. -/
def numbersOfValues : List Value → List Int
  | [] => []
  | v :: vs => numbersOfValue v ++ numbersOfValues vs

/-- The whole numbers in entries. -/
def numbersOfEntries : List (Value × Value) → List Int
  | [] => []
  | (k, v) :: es => numbersOfValue k ++ numbersOfValue v ++ numbersOfEntries es

end

/-- Whether a value is a text. -/
def isTextValue : Value → Bool
  | .text _ => true
  | _ => false

/-- The faults that variables risk. Every variable needs a name. -/
def risksOfVariables (vars : List (Value × Value)) : List Fault :=
  (if vars.all fun (name, _) => isTextValue name then [] else [.unfit]) ++
    (if (numbersOfEntries vars).any Item.isLong then [.badValue] else [])

/-- The faults that rendering statements with variables risks. -/
def risksOfRendering (body : List Stmt) (vars : List (Value × Value)) : List Fault :=
  .tooDeep :: (fault? body).toList ++ Stmt.risksOfAll body ++ risksOfVariables vars

/-- A loop that prints texts in another case risks that there is nothing to go over. -/
example : risksOfRendering [.loop (.name ['f']) (.name ['m']) none false
    [.print (.filter (some (.member (.name ['f']) ['n'])) (Text.of "snake_case") [])] []]
    [(.text ['m'], .list [.map none [(.text ['n'], .int 7)]])] = [.tooDeep, .unfit] := by
  decide +kernel

end Template

end Scaffold
