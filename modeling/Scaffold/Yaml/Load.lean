import Scaffold.Value.Sharing
import Scaffold.Yaml.Scalar

/-!
# Values of documents

What a YAML document stands for.

A key `<<` merges the entries of another mapping, or of several, in front of the own ones. An
alias stands for the same collection as its anchor and not for a copy. Keys have to be scalars.

Collections are filled level by level, so that of two faults the one on the outer level counts.
-/

namespace Scaffold

namespace Yaml

/-- The node an alias stands for. -/
def Graph.target (d : Graph) : Node → Node
  | .alias n => (d.anchored.lookup n).getD Composer.nothing
  | node => node

/-- A key as a mapping has it: the key for the default value is an ordinary one there. -/
def plainKey : Node → Node
  | .scalar .default s => .scalar .text s
  | node => node

/-- Whether a node is the key that merges. -/
def isMerge : Node → Bool
  | .scalar .merge _ => true
  | _ => false

/-- The pairs of a mapping with the merged ones in front. `inside` are the mappings that are
being merged already. -/
def flatten (d : Graph) : (fuel : Nat) → (inside : List Nat) → List (Node × Node) →
    Except Fault (List (Node × Node))
  | 0, _, _ => .error .malformed
  | fuel + 1, inside, pairs => do
    let own := (pairs.filter fun (k, _) => !isMerge (d.target k)).map fun (k, v) =>
      (plainKey (d.target k), v)
    let mappingPairs (node : Node) : Except Fault (List (Node × Node)) :=
      match node with
      | .map n _ pairs =>
        if inside.contains n then .ok (pairs.filter fun (k, _) => !isMerge (d.target k))
        else flatten d fuel (n :: inside) pairs
      | _ => .error .malformed
    let merged ← (pairs.filter fun (k, _) => isMerge (d.target k)).mapM fun (_, v) =>
      match d.target v with
      | .seq _ _ items => do
        let parts ← items.mapM fun item => mappingPairs (d.target item)
        return parts.reverse.flatten
      | node => mappingPairs node
    return merged.flatten ++ own

/-- The text of a node where a scalar is needed: its own, or that under the default key. -/
def scalarText (d : Graph) : (fuel : Nat) → Node → Except Fault Text
  | 0, _ => .error .malformed
  | fuel + 1, node =>
    match node with
    | .scalar _ s => .ok s
    | .map _ _ pairs =>
      match pairs.find? fun (k, _) => match d.target k with
        | .scalar .default _ => true
        | _ => false with
      | some (_, v) => scalarText d fuel (d.target v)
      | none => .error .malformed
    | _ => .error .malformed

/-- The tag of a node. -/
def tagOf : Node → Tag
  | .scalar tag _ => tag
  | .seq _ tag _ => tag
  | .map _ tag _ => tag
  | .alias _ => .unknown

/-- Whether nodes with the tag are collections. -/
def Tag.isCollection : Tag → Bool
  | .seq | .map | .set | .orderedMap | .pairs => true
  | _ => false

/-- The value of a node with a tag for scalars. -/
def scalarValue (d : Graph) (fuel : Nat) (node : Node) : Except Fault Value := do
  let s ← scalarText d fuel node
  match node, tagOf node with
  | .scalar .., tag => Scalar.read tag s
  | _, .moment => throw .momentOfMap
  | _, tag => Scalar.read tag s

/-- The number of a collection. -/
def numberOf? : Node → Option Nat
  | .seq n _ _ => some n
  | .map n _ _ => some n
  | _ => none

/-- The single pairs that the items of an ordered mapping have to be. -/
def singlePair (d : Graph) (item : Node) : Except Fault (Node × Node) :=
  match d.target item with
  | .map _ _ [pair] => .ok pair
  | _ => .error .malformed

/-! ### Faults, level by level -/

/-- What filling a collection meets: nodes in order, and whether a node is a key. -/
def parts (d : Graph) (fuel : Nat) (node : Node) : List (Except Fault (Bool × Node)) :=
  match tagOf node, node with
  | .seq, .seq _ _ items => items.map fun item => .ok (false, item)
  | .map, .map _ _ pairs | .set, .map _ _ pairs =>
    match flatten d fuel (numberOf? node).toList pairs with
    | .ok pairs => pairs.flatMap fun (k, v) => [.ok (true, k), .ok (false, v)]
    | .error e => [.error e]
  | .orderedMap, .seq _ _ items | .pairs, .seq _ _ items =>
    items.flatMap fun item => match singlePair d item with
      | .ok (k, v) => [.ok (false, k), .ok (false, v)]
      | .error e => [.error e]
  | _, _ => [.error .malformed]

/-- The collections among the parts, in order, that were not met before; or the first fault. -/
def meet (d : Graph) (fuel : Nat) : (seen : List Nat) → List (Except Fault (Bool × Node)) →
    Except Fault (List Nat × List Node)
  | seen, [] => .ok (seen, [])
  | _, .error e :: _ => .error e
  | seen, .ok (isKey, part) :: rest => do
    let node := d.target part
    if (tagOf node).isCollection then
      if isKey then throw .malformed
      match numberOf? node with
      | some n =>
        if seen.contains n then meet d fuel seen rest
        else
          let (seen, more) ← meet d fuel (n :: seen) rest
          return (seen, node :: more)
      | none =>
        let (seen, more) ← meet d fuel seen rest
        return (seen, node :: more)
    else
      let _ ← scalarValue d fuel node
      meet d fuel seen rest

/-- Fill the collections of a level, then those they hold. -/
def checkLevels (d : Graph) : (fuel : Nat) → (seen : List Nat) → List Node → Except Fault Unit
  | 0, _, _ => .ok ()
  | _, _, [] => .ok ()
  | fuel + 1, seen, nodes => do
    let (seen, next) ← nodes.foldlM (fun (seen, next) node => do
      let (seen, more) ← meet d fuel seen (parts d fuel node)
      return (seen, next ++ more)) (seen, ([] : List Node))
    checkLevels d fuel seen next

/-! ### Values -/

/-- The value of a node. `inside` are the collections around it. -/
def valueOf (d : Graph) : (fuel : Nat) → (inside : List Nat) → Node → Except Fault Value
  | 0, _, _ => .error .malformed
  | fuel + 1, inside, written => do
    let node := d.target written
    let tag := tagOf node
    if !tag.isCollection then scalarValue d fuel node
    else
      let number := (numberOf? node).getD 0
      if inside.contains number && (numberOf? node).isSome then
        return .cycle number (tag == .map)
      let within := number :: inside
      let pairValue (pair : Node × Node) : Except Fault (Value × Value) := do
        return (← valueOf d fuel within pair.1, ← valueOf d fuel within pair.2)
      match tag, node with
      | .seq, .seq _ _ items => return .list (← items.mapM (valueOf d fuel within))
      | .map, .map _ _ pairs =>
        let pairs ← flatten d fuel [number] pairs
        let entries ← pairs.mapM pairValue
        return .map (some number) (entries.foldl (fun es (k, v) => Value.insert k v es) [])
      | .set, .map _ _ pairs =>
        let pairs ← flatten d fuel [number] pairs
        let entries ← pairs.mapM pairValue
        return .set ((entries.foldl (fun es (k, v) => Value.insert k v es) []).map (·.1))
      | .orderedMap, .seq _ _ items | .pairs, .seq _ _ items =>
        return .list (← items.mapM fun item => do
          let (k, v) ← pairValue (← singlePair d item)
          return .tuple [k, v])
      | _, _ => throw .malformed

/-- The value of a document, once it is known that every part of it has one. -/
def Graph.value (d : Graph) (fuel : Nat) : Except Fault Value := do
  let _ ← meet d fuel [] [.ok (false, d.root)]
  checkLevels d fuel (numberOf? (d.target d.root)).toList
    (if (tagOf d.root).isCollection then [d.root] else [])
  return (← valueOf d fuel [] d.root).onlyShared

/-- The value of a row of tokens. There are fewer collections than tokens, which bounds how deep one
can be inside of others. -/
def valueOfTokens (ts : List Token) : Except Fault Value := do
  match ← documentOf? ts with
  | none => return .null
  | some d => d.value (2 * ts.length + 8)

/-- The value of a YAML text. A blank text has the value `null`. -/
def load (s : Text) : Except Fault Value := do valueOfTokens (← tokens s)

end Yaml

end Scaffold
