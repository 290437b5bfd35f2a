import Scaffold.Json
import Scaffold.Template.Filter.Key
import Scaffold.Template.Item.Folded

/-!
# Filters that write items down

An item as a JSON document that can stand in markup, and an item as it is shown with the keys of
mappings in order.
-/

namespace Scaffold

namespace Template

namespace Apply

open Item

/-- A floating-point number in a document. -/
def realText (x : Float) : Text :=
  if x.isNaN then Text.of "NaN"
  else if x.isInf then Text.of (if x < 0.0 then "-Infinity" else "Infinity")
  else Decimal.written x

/-- A key in a document. -/
def memberName (key : Item) : Except Fault Text :=
  match key with
  | .text _ s => .ok s
  | .null => .ok (Text.of "null")
  | .bool b => .ok (Text.of (if b then "true" else "false"))
  | .int n => intText n
  | .float x => .ok (realText x)
  | _ => .error .unfit

/-- An item as a document. Nothing may contain itself. -/
def documentOf (cells : Array Cell) : (fuel : Nat) → (above : List Address) → Item →
    Except Fault Json
  | 0, _, _ => .error .tooDeep
  | fuel + 1, above, item =>
    match item with
    | .null => .ok .null
    | .bool b => .ok (.bool b)
    | .int n => do return .number (← intText n)
    | .float x => .ok (.number (realText x))
    | .text _ s => .ok (.text s)
    | .tuple _ items => do return .list (← items.mapM (documentOf cells fuel above))
    | .ref a => do
      if above.contains a then throw .badValue
      match cells[a]? with
      | some (.list items) => return .list (← items.mapM (documentOf cells fuel (a :: above)))
      | some (.map entries) =>
        let inOrder ← sorted (ordered cells .lt) (entries.map fun (k, v) => (k, pair k v))
        return .object (← inOrder.mapM fun (k, kv) => do
          let value := ((kv.tuple?.getD []).drop 1).headD .null
          return (← memberName k, ← documentOf cells fuel (a :: above) value))
      | _ => throw .unfit
    | _ => .error .unfit

/-- Characters that mean something in markup, written by their codes. -/
def guarded (s : Text) : Text :=
  s.flatMap fun c => if (Text.of "<>&'").contains c then Json.unit c.toNat else [c]

/-- An item as a document. -/
def runToJson (item : Item) (g : Given) : Work Item := do
  let [indent] ← lift (g.forParameters [("indent", some .null)]) | throw .unfit
  let indent ← match indent with
    | .null => pure none
    | .text _ s => pure (some s)
    | n => match ← operate .mul (.plain [' ']) n with
      | .text _ s => pure (some s)
      | _ => throw .unfit
  let document ← lift (documentOf (← heap) Item.depth [] item)
  return .text true (guarded (document.written ⟨indent⟩))

/-- A copy of an item in which the keys of mappings are in order. -/
def inOrder : (fuel : Nat) → Item → Work Item
  | 0, item => return item
  | fuel + 1, item => do
    match item with
    | .tuple isGroup items => return .tuple isGroup (← items.mapM (inOrder fuel))
    | .ref a => match ← cellAt a with
      | .list items => newList (← items.mapM (inOrder fuel))
      | .map entries =>
        let entries ← entries.mapM fun (k, v) => do return (k, ← inOrder fuel v)
        let keyed := entries.map fun (k, v) => (k, pair k v)
        match sorted (ordered (← heap) .lt) keyed with
        | .ok found => newMap (found.map fun (k, kv) =>
            (k, ((kv.tuple?.getD []).drop 1).headD .null))
        | .error _ => newMap entries
      | _ => return item
    | item => return item

/-- An item folded into lines, the keys of mappings in order. -/
def runPretty (item : Item) (g : Given) : Work Item := do
  let _ ← lift (g.forParameters [])
  let item ← inOrder Item.depth item
  return .plain (← lift (item.folded (← heap)))

end Apply

end Template

end Scaffold
