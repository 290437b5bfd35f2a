import Scaffold.Text.Basic

/-!
# Template trees

A template is a list of statements: text, expressions to print, and blocks of statements. The
names that a tree reads and binds can be listed in the order in which they stand in it; the rules
for the visibility of names are stated on that list.
-/

namespace Scaffold

namespace Template

/-- An operation on one value. -/
inductive Unary
  | plus
  | minus
  | not
deriving DecidableEq, Repr

/-- An operation on two values that both have to be known. -/
inductive Binary
  | add
  | sub
  | mul
  | div
  | floorDiv
  | mod
  | pow
deriving DecidableEq, Repr

/-- A comparison. -/
inductive Comparison
  | eq
  | ne
  | lt
  | le
  | gt
  | ge
  | isIn
  | notIn
deriving DecidableEq, Repr

/-- What is handed to a call. -/
inductive Argument (ε : Type) where
  | positional (e : ε)
  | named (name : Text) (e : ε)
  /-- The items of a value, one by one. -/
  | spread (e : ε)
  /-- The entries of a mapping, one by one. -/
  | spreadNamed (e : ε)
deriving Repr, Inhabited

/-- An expression. -/
inductive Expr where
  | null
  | bool (b : Bool)
  | integer (n : Nat)
  | float (x : Float)
  | string (s : Text)
  | name (s : Text)
  | list (items : List Expr)
  | tuple (items : List Expr)
  | map (entries : List (Expr × Expr))
  | unary (op : Unary) (e : Expr)
  | binary (op : Binary) (a b : Expr)
  | both (a b : Expr)
  | either (a b : Expr)
  /-- Texts of values, one after the other. -/
  | joined (parts : List Expr)
  | compare (first : Expr) (rest : List (Comparison × Expr))
  | choice (test yes : Expr) (no : Option Expr)
  | member (e : Expr) (name : Text)
  | item (e index : Expr)
  /-- A part of a sequence. Stands only as the index of an item. -/
  | slice (start stop step : Option Expr)
  | call (f : Expr) (arguments : List (Argument Expr))
  /-- A filter. Without a subject it is applied to captured text. -/
  | filter (subject : Option Expr) (name : Text) (arguments : List (Argument Expr))
  | test (subject : Expr) (name : Text) (arguments : List (Argument Expr))
deriving Repr, Inhabited

/-- What a value is bound to. -/
inductive Target where
  | name (s : Text)
  /-- An attribute of a namespace. -/
  | field (object member : Text)
  | tuple (items : List Target)
deriving Repr, Inhabited

/-- What a routine takes. The last parameters may have defaults. -/
structure Signature where
  parameters : List Text
  defaults : List Expr
deriving Repr, Inhabited

/-- A statement. -/
inductive Stmt where
  | text (s : Text)
  | print (e : Expr)
  | loop (target : Target) (source : Expr) (test : Option Expr) (isRecursive : Bool)
      (body orElse : List Stmt)
  | choice (test : Expr) (body : List Stmt) (others : List (Expr × List Stmt))
      (orElse : List Stmt)
  | assign (target : Target) (value : Expr)
  /-- Bind captured output, after the filters if there are any. -/
  | capture (target : Target) (filters : Option Expr) (body : List Stmt)
  | routine (name : Text) (signature : Signature) (body : List Stmt)
  /-- A call that is handed the body as a routine. -/
  | callWith (signature : Signature) (callee : Expr) (arguments : List (Argument Expr))
      (body : List Stmt)
  | filtered (filters : Expr) (body : List Stmt)
  | binding (targets : List Target) (values : List Expr) (body : List Stmt)
  | escaping (switch : Expr) (body : List Stmt)
  | block (name : Text) (isScoped isRequired : Bool) (body : List Stmt)
  | inherit (template : Expr)
  | inclusion (template : Expr) (ignoreMissing withContext : Bool)
  | moduleAs (template : Expr) (name : Text) (withContext : Bool)
  /-- Names of a module, each with the name it gets here. -/
  | namesFrom (template : Expr) (names : List (Text × Text)) (withContext : Bool)
deriving Repr, Inhabited

/-! ### Names in a tree -/

/-- A name as it occurs in a tree. -/
inductive Mention
  | reads (name : Text)
  | binds (name : Text)
deriving DecidableEq, Repr

mutual

/-- The names that an expression reads. -/
def Expr.names : Expr → List Text
  | .null | .bool _ | .integer _ | .float _ | .string _ => []
  | .name s => [s]
  | .list es | .tuple es | .joined es => namesOfAll es
  | .map es => namesOfEntries es
  | .unary _ e => e.names
  | .binary _ a b | .both a b | .either a b | .item a b => a.names ++ b.names
  | .compare e es => e.names ++ namesOfOperands es
  | .choice t y n => t.names ++ y.names ++ namesOfOption n
  | .member e _ => e.names
  | .slice a b c => namesOfOption a ++ namesOfOption b ++ namesOfOption c
  | .call f args => f.names ++ namesOfArguments args
  | .filter s _ args => namesOfOption s ++ namesOfArguments args
  | .test s _ args => s.names ++ namesOfArguments args

/-- The names that expressions read. -/
def Expr.namesOfAll : List Expr → List Text
  | [] => []
  | e :: es => e.names ++ namesOfAll es

/-- The names that an optional expression reads. -/
def Expr.namesOfOption : Option Expr → List Text
  | none => []
  | some e => e.names

/-- The names that entries read. -/
def Expr.namesOfEntries : List (Expr × Expr) → List Text
  | [] => []
  | (k, v) :: es => k.names ++ v.names ++ namesOfEntries es

/-- The names that operands read. -/
def Expr.namesOfOperands : List (Comparison × Expr) → List Text
  | [] => []
  | (_, e) :: es => e.names ++ namesOfOperands es

/-- The names that an argument reads. -/
def Expr.namesOfArgument : Argument Expr → List Text
  | .positional e | .named _ e | .spread e | .spreadNamed e => e.names

/-- The names that arguments read. -/
def Expr.namesOfArguments : List (Argument Expr) → List Text
  | [] => []
  | a :: args => namesOfArgument a ++ namesOfArguments args

end

/-- The names that an expression reads, as mentions. -/
def Expr.mentions (e : Expr) : List Mention := e.names.map .reads

mutual

/-- The names that a target binds. -/
def Target.names : Target → List Text
  | .name s => [s]
  | .field .. => []
  | .tuple items => Target.namesOfAll items

/-- The names that targets bind. -/
def Target.namesOfAll : List Target → List Text
  | [] => []
  | t :: ts => t.names ++ namesOfAll ts

end

mutual

/-- The namespaces whose attributes a target binds. -/
def Target.objects : Target → List Text
  | .name _ => []
  | .field object _ => [object]
  | .tuple items => Target.objectsOfAll items

/-- The namespaces whose attributes targets bind. -/
def Target.objectsOfAll : List Target → List Text
  | [] => []
  | t :: ts => t.objects ++ objectsOfAll ts

end

/-- The names that a target binds, as mentions. -/
def Target.mentions (t : Target) : List Mention := t.names.map .binds

/-- The parameters and defaults of a signature, as mentions. -/
def Signature.mentions (s : Signature) : List Mention :=
  s.parameters.map .binds ++ s.defaults.flatMap Expr.mentions

mutual

/-- The names in a statement as they stand in it. Blocks of a template are worlds of their own
and have none. -/
def Stmt.mentions : Stmt → List Mention
  | .text _ => []
  | .print e => e.mentions
  | .loop target source test _ body orElse =>
    target.mentions ++ source.mentions ++ mentionsOfAll body ++ mentionsOfAll orElse ++
      (Expr.namesOfOption test).map .reads
  | .choice test body others orElse =>
    test.mentions ++ mentionsOfAll body ++ mentionsOfBranches others ++ mentionsOfAll orElse
  | .assign target value => target.mentions ++ value.mentions
  | .capture target filters body =>
    target.mentions ++ (Expr.namesOfOption filters).map .reads ++ mentionsOfAll body
  | .routine _ signature body => signature.mentions ++ mentionsOfAll body
  | .callWith signature callee args body =>
    callee.mentions ++ (Expr.namesOfArguments args).map .reads ++ signature.mentions ++
      mentionsOfAll body
  | .filtered filters body => mentionsOfAll body ++ filters.mentions
  | .binding targets values body =>
    targets.flatMap Target.mentions ++ values.flatMap Expr.mentions ++ mentionsOfAll body
  | .escaping switch body => switch.mentions ++ mentionsOfAll body
  | .block .. => []
  | .inherit template | .inclusion template _ _ | .moduleAs template _ _
  | .namesFrom template _ _ => template.mentions

/-- The names in statements. -/
def Stmt.mentionsOfAll : List Stmt → List Mention
  | [] => []
  | s :: ss => s.mentions ++ mentionsOfAll ss

/-- The names in branches. -/
def Stmt.mentionsOfBranches : List (Expr × List Stmt) → List Mention
  | [] => []
  | (e, body) :: rest => e.mentions ++ mentionsOfAll body ++ mentionsOfBranches rest

end

/-- Those of the given names that are read before they are bound. -/
def readFirst (names : List Text) : List Mention → List Text
  | [] => []
  | .reads name :: rest =>
    if names.contains name then name :: readFirst (names.filter (· ≠ name)) rest
    else readFirst names rest
  | .binds name :: rest => readFirst (names.filter (· ≠ name)) rest

/-- Whether statements read a name before they bind it. -/
def readsFirst (name : Text) (body : List Stmt) : Bool :=
  !(readFirst [name] (Stmt.mentionsOfAll body)).isEmpty

/-! ### Blocks -/

/-- A block of a template. -/
structure Block where
  name : Text
  isScoped : Bool
  body : List Stmt
deriving Repr, Inhabited

mutual

/-- The blocks in a statement, however deep, outer ones first. -/
def Stmt.blocks : Stmt → List Block
  | .loop _ _ _ _ body orElse => blocksOfAll body ++ blocksOfAll orElse
  | .choice _ body others orElse =>
    blocksOfAll body ++ blocksOfBranches others ++ blocksOfAll orElse
  | .capture _ _ body | .routine _ _ body | .callWith _ _ _ body | .filtered _ body
  | .binding _ _ body | .escaping _ body => blocksOfAll body
  | .block name isScoped _ body => ⟨name, isScoped, body⟩ :: blocksOfAll body
  | _ => []

/-- The blocks in statements. -/
def Stmt.blocksOfAll : List Stmt → List Block
  | [] => []
  | s :: ss => s.blocks ++ blocksOfAll ss

/-- The blocks in branches. -/
def Stmt.blocksOfBranches : List (Expr × List Stmt) → List Block
  | [] => []
  | (_, body) :: rest => blocksOfAll body ++ blocksOfBranches rest

end

end Template

end Scaffold
