import Scaffold.Template.Item.Basic

/-!
# Items from values

Lists, sets and mappings become cells. A mapping that stands at several places becomes one cell.
-/

namespace Scaffold

namespace Template

namespace Item

/-- The addresses that labels stand for. -/
abbrev Labels := List (Nat × Address)

/-- A value on its way to become an item. -/
abbrev Loading (α : Type) := StateT Labels Work α

/-- A new cell. -/
def newCell (c : Cell) : Loading Item := fun labels => do return (← refTo c, labels)

mutual

/-- The item for a value. -/
def load : Value → Loading Item
  | .null => pure .null
  | .bool b => pure (.bool b)
  | .int n => pure (.int n)
  | .float x => pure (.float x)
  | .text s => pure (.plain s)
  | .bytes b => pure (.bytes b)
  | .date d => pure (.date d)
  | .moment t => pure (.moment t)
  | .list vs => do newCell (.list (← loadAll vs))
  | .tuple vs => do return .tuple false (← loadAll vs)
  | .set vs => do newCell (.set (← loadAll vs))
  | .map none es => do newCell (.map (← loadEntries es))
  | .map (some label) es => do
    match (← get).lookup label with
    | some a => return .ref a
    | none =>
      let a ← allocate (.map [])
      modify ((label, a) :: ·)
      let entries ← loadEntries es
      setCell a (.map entries)
      return .ref a
  | .cycle label ofMap => do
    match (← get).lookup label with
    | some a => return .ref a
    | none => newCell (if ofMap then .map [] else .list [])

/-- The items for values. -/
def loadAll : List Value → Loading (List Item)
  | [] => pure []
  | v :: vs => do
    let item ← load v
    return item :: (← loadAll vs)

/-- The items for entries. -/
def loadEntries : List (Value × Value) → Loading (List (Item × Item))
  | [] => pure []
  | (k, v) :: es => do
    let key ← load k
    let item ← load v
    return (key, item) :: (← loadEntries es)

end

end Item

/-- The items for variables. Every variable needs a name. -/
def loadVariables (vars : List (Value × Value)) : Work (List (Text × Item)) := do
  let (entries, _) ← (Item.loadEntries vars).run []
  entries.mapM fun
    | (.text _ name, item) => pure (name, item)
    | _ => throw .unfit

end Template

end Scaffold
