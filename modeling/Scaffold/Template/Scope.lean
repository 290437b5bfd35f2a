import Scaffold.Template.Tree

/-!
# Scopes

Which names a scope has of its own, and where each gets its first value. A scope is settled as a
whole before any of its statements run: a name that is bound somewhere in it is its own
everywhere in it. A name that is only read is looked for in the scopes around it, and if none has
it, it is the scope's own, with its first value from the context.

## Implementation notes

The branches of a choice share the scope of the choice. A name that only some of them bind keeps
the value it has outside when another branch is taken.
-/

namespace Scaffold

namespace Template

/-- Where a name of a scope gets its first value. -/
inductive Origin
  /-- It is handed in. -/
  | parameter
  | context
  /-- The same name in a scope around this one. -/
  | outer
  | nothing
deriving DecidableEq, Repr

/-- The names of a scope. -/
structure Scope where
  own : List (Text × Origin)
  /-- The names that are bound in it. -/
  bound : List Text
deriving DecidableEq, Repr

namespace Scope

/-- A scope without names. -/
def empty : Scope := ⟨[], []⟩

/-- Whether a scope has a name of its own. -/
def has (s : Scope) (name : Text) : Bool := s.own.any (·.1 = name)

/-- Give a name of a scope an origin. -/
def setOrigin (name : Text) (origin : Origin) : List (Text × Origin) → List (Text × Origin)
  | [] => [(name, origin)]
  | (n, o) :: rest =>
    if n = name then (n, origin) :: rest else (n, o) :: setOrigin name origin rest

/-- A scope in which a name is bound. -/
def withBound (s : Scope) (name : Text) : Scope :=
  if s.bound.contains name then s else { s with bound := s.bound ++ [name] }

/-- A scope that is handed a name. -/
def hand (s : Scope) (name : Text) : Scope :=
  { s.withBound name with own := setOrigin name .parameter s.own }

variable (outer : Text → Bool)

/-- A scope that binds a name. -/
def bind (s : Scope) (name : Text) : Scope :=
  let t := s.withBound name
  if s.has name then t
  else { t with own := t.own ++ [(name, if outer name then .outer else .nothing)] }

/-- A scope that reads a name. -/
def read (s : Scope) (name : Text) : Scope :=
  if s.has name || outer name then s else { s with own := s.own ++ [(name, .context)] }

/-- A scope that reads names. -/
def readAll (s : Scope) (names : List Text) : Scope := names.foldl (read outer) s

/-- A scope with a target in it. -/
def bindTarget (s : Scope) (t : Target) : Scope :=
  readAll outer (t.names.foldl (bind outer) s) t.objects

/-- A scope that is handed the names of a target. -/
def handTarget (s : Scope) (t : Target) : Scope := t.names.foldl hand s

/-- The scope after a choice, from the scopes after each of its branches. -/
def afterChoice (s : Scope) (branches : List Scope) : Scope :=
  let united := branches.foldl (fun acc b =>
    ⟨b.own.foldl (fun own (n, o) => setOrigin n o own) acc.own,
      b.bound.foldl (fun bound n => if bound.contains n then bound else bound ++ [n]) acc.bound⟩) s
  let partly := united.bound.filter fun n =>
    !s.bound.contains n && !branches.all fun b => b.bound.contains n
  { united with own := partly.foldl (fun own n =>
      setOrigin n (if outer n then .outer else .context) own) united.own }

mutual

/-- A scope with a statement in it. -/
def visit (s : Scope) : Stmt → Scope
  | .text _ | .escaping .. | .block .. => s
  | .print e | .inherit e | .inclusion e _ _ => readAll outer s e.names
  | .loop _ source _ _ _ _ => readAll outer s source.names
  | .choice test body others orElse =>
    let s := readAll outer s test.names
    afterChoice outer s [visitAll s body, visitBranches s others, visitAll s orElse]
  | .assign target value => bindTarget outer (readAll outer s value.names) target
  | .capture target _ _ => bindTarget outer s target
  | .routine name _ _ => bind outer s name
  | .callWith _ callee args _ =>
    readAll outer (readAll outer s callee.names) (Expr.namesOfArguments args)
  | .filtered filters _ => readAll outer s filters.names
  | .binding _ values _ => readAll outer s (Expr.namesOfAll values)
  | .moduleAs template name _ => bind outer (readAll outer s template.names) name
  | .namesFrom template names _ =>
    (names.map (·.2)).foldl (bind outer) (readAll outer s template.names)

/-- A scope with statements in it. -/
def visitAll (s : Scope) : List Stmt → Scope
  | [] => s
  | stmt :: stmts => visitAll (visit s stmt) stmts

/-- A scope with further branches of a choice in it, each a choice of its own. -/
def visitBranches (s : Scope) : List (Expr × List Stmt) → Scope
  | [] => s
  | (test, body) :: rest =>
    let s := readAll outer s test.names
    visitBranches (afterChoice outer s [visitAll s body, s, s]) rest

end

/-- The scope of statements that are handed names. -/
def ofBody (handed : List Text) (body : List Stmt) : Scope :=
  visitAll outer (handed.foldl hand empty) body

/-- The scope of the body of a loop. -/
def ofLoop (handed : List Text) (target : Target) (body : List Stmt) : Scope :=
  visitAll outer (handTarget (handed.foldl hand empty) target) body

/-- The scope of the test of a loop. -/
def ofLoopTest (target : Target) (test : Expr) : Scope :=
  readAll outer (handTarget empty target) test.names

/-- The scope of a routine. What its body is handed besides its parameters comes last. -/
def ofRoutine (sig : Signature) (extra : List Text) (body : List Stmt) : Scope :=
  let s := readAll outer (sig.parameters.foldl hand empty) (Expr.namesOfAll sig.defaults)
  extra.foldl hand (visitAll outer s body)

/-- The scope of a body with targets bound for it. -/
def ofBinding (targets : List Target) (body : List Stmt) : Scope :=
  visitAll outer (targets.foldl handTarget empty) body

/-- The scope of a body that filters are applied to. -/
def ofFiltered (filters : Expr) (body : List Stmt) : Scope :=
  readAll outer (visitAll outer empty body) filters.names

/-- The scope of a body with a switch. -/
def ofEscaping (switch : Expr) (body : List Stmt) : Scope :=
  visitAll outer (readAll outer empty switch.names) body

end Scope

end Template

end Scaffold
