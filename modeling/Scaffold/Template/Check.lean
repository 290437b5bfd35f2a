import Scaffold.Template.Filter.Basic
import Scaffold.Template.Item.Basic
import Scaffold.Template.Scope
import Scaffold.Template.Test

/-!
# Faults of trees

What makes a template unusable before any of it is rendered: filters and tests that nobody knows,
blocks with the same name, a base named where it cannot be, names that may not be bound. Inside a
choice a filter or test that nobody knows is a fault only when it is applied.
-/

namespace Scaffold

namespace Template

/-! ### Expressions -/

/-- Whether a name stands twice among names. -/
def hasRepeated : List Text → Bool
  | [] => false
  | n :: ns => ns.contains n || hasRepeated ns

/-- The keywords of arguments. -/
def keywords (args : List (Argument Expr)) : List Text :=
  args.filterMap fun
    | .named n _ => some n
    | _ => none

/-- The fault of a call with the same keyword twice. -/
def repeatedFaults (names : List Text) : List Fault :=
  if hasRepeated names then [.repeatedName] else []

/-- The fault of a name that nobody knows. -/
def unknownFaults (soft isKnown : Bool) : List Fault :=
  if soft || isKnown then [] else [.malformed]

mutual

/-- The faults of an expression. With `soft` names need not be known. -/
def Expr.faults (soft : Bool) : Expr → List Fault
  | .null | .bool _ | .integer _ | .float _ | .string _ | .name _ => []
  | .list es | .tuple es | .joined es => faultsOfAll soft es
  | .map es => faultsOfEntries soft es
  | .unary _ e | .member e _ => e.faults soft
  | .binary _ a b | .both a b | .either a b | .item a b => a.faults soft ++ b.faults soft
  | .compare e es => e.faults soft ++ faultsOfOperands soft es
  | .choice t y n => t.faults true ++ y.faults true ++ faultsOfOption true n
  | .slice a b c => faultsOfOption soft a ++ faultsOfOption soft b ++ faultsOfOption soft c
  | .call f args =>
    f.faults soft ++ faultsOfArguments soft args ++ repeatedFaults (keywords args)
  | .filter s word args =>
    unknownFaults soft (Filter.ofName? word).isSome ++ faultsOfOption soft s ++
      faultsOfArguments soft args ++ repeatedFaults (keywords args)
  | .test s word args =>
    unknownFaults soft (Test.ofName? word).isSome ++ s.faults soft ++
      faultsOfArguments soft args ++ repeatedFaults (keywords args)

/-- The faults of expressions. -/
def Expr.faultsOfAll (soft : Bool) : List Expr → List Fault
  | [] => []
  | e :: es => e.faults soft ++ faultsOfAll soft es

/-- The faults of an optional expression. -/
def Expr.faultsOfOption (soft : Bool) : Option Expr → List Fault
  | none => []
  | some e => e.faults soft

/-- The faults of entries. -/
def Expr.faultsOfEntries (soft : Bool) : List (Expr × Expr) → List Fault
  | [] => []
  | (k, v) :: es => k.faults soft ++ v.faults soft ++ faultsOfEntries soft es

/-- The faults of operands. -/
def Expr.faultsOfOperands (soft : Bool) : List (Comparison × Expr) → List Fault
  | [] => []
  | (_, e) :: es => e.faults soft ++ faultsOfOperands soft es

/-- The faults of an argument. -/
def Expr.faultsOfArgument (soft : Bool) : Argument Expr → List Fault
  | .positional e | .named _ e | .spread e | .spreadNamed e => e.faults soft

/-- The faults of arguments. -/
def Expr.faultsOfArguments (soft : Bool) : List (Argument Expr) → List Fault
  | [] => []
  | a :: args => faultsOfArgument soft a ++ faultsOfArguments soft args

end

/-! ### Statements -/

mutual

/-- The names that a statement binds somewhere by a target. -/
def Stmt.targetNames : Stmt → List Text
  | .loop target _ _ _ body orElse =>
    target.names ++ targetNamesOfAll body ++ targetNamesOfAll orElse
  | .choice _ body others orElse =>
    targetNamesOfAll body ++ targetNamesOfBranches others ++ targetNamesOfAll orElse
  | .assign target _ => target.names
  | .capture target _ body => target.names ++ targetNamesOfAll body
  | .routine _ _ body | .callWith _ _ _ body | .filtered _ body | .escaping _ body
  | .block _ _ _ body => targetNamesOfAll body
  | .binding targets _ body => Target.namesOfAll targets ++ targetNamesOfAll body
  | _ => []

/-- The names that statements bind somewhere by targets. -/
def Stmt.targetNamesOfAll : List Stmt → List Text
  | [] => []
  | s :: ss => s.targetNames ++ targetNamesOfAll ss

/-- The names that branches bind somewhere by targets. -/
def Stmt.targetNamesOfBranches : List (Expr × List Stmt) → List Text
  | [] => []
  | (_, body) :: rest => targetNamesOfAll body ++ targetNamesOfBranches rest

end

/-- The name that the body of a loop knows its loop by. -/
def loopName : Text := Text.of "loop"

/-- The name that a routine knows the body of its call by. -/
def callerName : Text := Text.of "caller"

/-- Where a statement stands. -/
structure Standing where
  /-- Filters and tests need not be known. -/
  isSoft : Bool
  /-- At the top of the template, or in a choice there. -/
  isTop : Bool
  /-- Output is dropped, since the template is known to be based on another one. -/
  isSilent : Bool

/-- Inside another statement. -/
def Standing.inside (s : Standing) : Standing := ⟨false, false, s.isSilent⟩

/-- Inside a statement that keeps what its body puts out. -/
def Standing.kept : Standing := ⟨false, false, false⟩

/-- Inside a choice. -/
def Standing.inChoice (s : Standing) : Standing := { s with isSoft := true }

/-- The faults of a signature. A routine that uses the body of its call needs a default for a
parameter of that name. -/
def Signature.faults (sig : Signature) (body : List Stmt) : List Fault :=
  let required := sig.parameters.take (sig.parameters.length - sig.defaults.length)
  (if required.contains callerName && readsFirst callerName body then [.malformed] else []) ++
    repeatedFaults sig.parameters ++ Expr.faultsOfAll false sig.defaults

mutual

/-- The faults of a statement. -/
def Stmt.faults (at' : Standing) : Stmt → List Fault
  | .text _ => []
  | .print e => if at'.isSilent then [] else e.faults at'.isSoft
  | .loop target source test _ body orElse =>
    source.faults at'.isSoft ++ Expr.faultsOfOption false test ++
      (if (target.names ++ targetNamesOfAll body ++ targetNamesOfAll orElse).contains loopName
        then [.malformed] else []) ++
      faultsOfAll at'.inside body ++ faultsOfAll at'.inside orElse
  | .choice test body others orElse =>
    test.faults true ++ faultsOfAll at'.inChoice body ++ faultsOfBranches at'.inChoice others ++
      faultsOfAll at'.inChoice orElse
  | .assign _ value => value.faults at'.isSoft
  | .capture _ filters body => faultsOfAll .kept body ++ Expr.faultsOfOption false filters
  | .routine _ sig body => sig.faults body ++ faultsOfAll .kept body
  | .callWith sig callee args body =>
    sig.faults body ++ faultsOfAll .kept body ++ callee.faults at'.isSoft ++
      Expr.faultsOfArguments at'.isSoft args ++ repeatedFaults (callerName :: keywords args)
  | .filtered filters body => faultsOfAll at'.inside body ++ filters.faults false
  | .binding _ values body => Expr.faultsOfAll at'.isSoft values ++ faultsOfAll at'.inside body
  | .escaping switch body => switch.faults false ++ faultsOfAll at'.inside body
  | .block _ _ _ body => faultsOfAll .kept body
  | .inherit template => (if at'.isTop then [] else [.malformed]) ++ template.faults at'.isSoft
  | .inclusion template _ _ | .moduleAs template _ _ | .namesFrom template _ _ =>
    template.faults at'.isSoft

/-- The faults of statements. -/
def Stmt.faultsOfAll (at' : Standing) : List Stmt → List Fault
  | [] => []
  | s :: ss => s.faults at' ++ faultsOfAll at' ss

/-- The faults of branches. -/
def Stmt.faultsOfBranches (at' : Standing) : List (Expr × List Stmt) → List Fault
  | [] => []
  | (e, body) :: rest => e.faults true ++ faultsOfAll at' body ++ faultsOfBranches at' rest

end

/-- The faults of the statements of a template. Once a base is named, output is dropped; what
stands behind a second base is never reached. -/
def faultsAtTop (isSilent : Bool) : List Stmt → List Fault
  | [] => []
  | .inherit template :: ss =>
    if isSilent then [] else template.faults false ++ faultsAtTop true ss
  | s :: ss => s.faults ⟨false, true, isSilent⟩ ++ faultsAtTop isSilent ss

/-- The fault of a template, if it has any. -/
def fault? (body : List Stmt) : Option Fault :=
  let twice := hasRepeated ((Stmt.blocksOfAll body).map Block.name)
  let faults := (if twice then [.malformed] else []) ++ faultsAtTop false body
  if faults.contains .malformed then some .malformed else faults.head?

/-- A block, ready to be rendered. -/
def BlockCode.ofBlock (template : Option Text) (b : Block) : BlockCode :=
  ⟨b.body, readsFirst (Text.of "super") b.body,
    if readsFirst (Text.of "self") b.body then some template else none⟩

/-- A template, ready to be rendered. -/
def ofBody (name : Option Text) (body : List Stmt) : Except Fault Template :=
  match fault? body with
  | some f => .error f
  | none => .ok ⟨body, if readsFirst (Text.of "self") body then some name else none,
      (Stmt.blocksOfAll body).map fun b => (b.name, .ofBlock name b)⟩

end Template

end Scaffold
