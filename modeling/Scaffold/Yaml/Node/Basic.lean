import Scaffold.Yaml.Tag
import Scaffold.Yaml.Token.Layout

/-!
# Nodes

The tree that a YAML text describes. Collections carry a number: an alias gives the number of
the node it stands for, and two collections with one number are one.
-/

namespace Scaffold

namespace Yaml

/-- A node. -/
inductive Node where
  | scalar (tag : Tag) (s : Text)
  | seq (number : Nat) (tag : Tag) (items : List Node)
  | map (number : Nat) (tag : Tag) (pairs : List (Node × Node))
  | alias (number : Nat)
deriving Repr, Inhabited

/-- The node of a document, with the anchored nodes by their number. -/
structure Graph where
  root : Node
  anchored : List (Nat × Node)

/-- What is left to read, and what was learned so far. -/
structure Composition where
  tokens : List Token
  /-- What the tag handles stand for. -/
  handles : List (Text × Text)
  /-- The numbers of the anchors. -/
  anchors : List (Text × Nat)
  anchored : List (Nat × Node)
  /-- The number the next node gets. -/
  fresh : Nat

/-- A step of reading nodes. -/
abbrev Composer := StateT Composition (Except Fault)

/-- The tag handles that need no directive. -/
def commonHandles : List (Text × Text) := [(['!'], ['!']), (['!', '!'], Tag.stem)]

namespace Composer

/-- The text is malformed. -/
def fail {α : Type} : Composer α := throw .malformed

/-- The next token. -/
def peek : Composer Token := return ((← get).tokens.headD .streamEnd)

/-- Move past the next token. -/
def skip : Composer Unit := modify fun c => { c with tokens := c.tokens.tail }

/-- Take the next token if it is the given one. -/
def accept (t : Token) : Composer Bool := do
  if (← peek) = t then
    skip
    return true
  else return false

/-- Whether one of the tokens comes next. -/
def sees (ts : List Token) : Composer Bool := return ts.contains (← peek)

/-- What stands where nothing is written. -/
def nothing : Node := .scalar .null []

/-- The number for a new node. -/
def number : Composer Nat := modifyGet fun c => (c.fresh, { c with fresh := c.fresh + 1 })

/-- An anchor, which has to be a new one, gets the number. -/
def anchor (name : Option Text) (n : Nat) : Composer Unit := do
  match name with
  | none => return
  | some name =>
    let c ← get
    if (c.anchors.lookup name).isSome then fail
    set { c with anchors := (name, n) :: c.anchors }

/-- Keep a node for aliases if it has an anchor. -/
def keep (name : Option Text) (n : Nat) (node : Node) : Composer Node := do
  if name.isSome then modify fun c => { c with anchored := (n, node) :: c.anchored }
  return node

/-- The name of a written tag, its handle looked up. -/
def tagName (t : WrittenTag) : Composer Text := do
  match t.handle with
  | none => return t.suffix
  | some handle =>
    match (← get).handles.lookup handle with
    | some start => return start ++ t.suffix
    | none => fail

/-- Anchor and tag in front of a node, in either order. -/
def properties : Composer (Option Text × Option Text) := do
  match ← peek with
  | .anchor name =>
    skip
    match ← peek with
    | .tag t =>
      skip
      return (some name, some (← tagName t))
    | _ => return (some name, none)
  | .tag t =>
    skip
    match ← peek with
    | .anchor name =>
      skip
      return (some name, some (← tagName t))
    | _ => return (none, some (← tagName t))
  | _ => return (none, none)

/-- The tag of a scalar. -/
def scalarTag (name : Option Text) (plain : Bool) (s : Text) : Tag :=
  match name with
  | none => if plain then Tag.ofLook s else .text
  | some name => if name = ['!'] then Tag.ofLook s else Tag.ofName name

/-- The tag of a collection, given the one it has without any. -/
def collectionTag (name : Option Text) (usual : Tag) : Tag :=
  match name with
  | none => usual
  | some name => if name = ['!'] then usual else Tag.ofName name

/-- The nodes that an unordered reading begins a flow pair with. -/
def flowStops : List Token := [.comma, .closeBracket]

mutual

/-- A node. Block collections are allowed outside of flow collections; entries without
indentation are allowed under a key. -/
def node : (fuel : Nat) → (block indentless : Bool) → Composer Node
  | 0, _, _ => fail
  | fuel + 1, block, indentless => do
    match ← peek with
    | .alias name =>
      skip
      match (← get).anchors.lookup name with
      | some n => return .alias n
      | none => fail
    | _ =>
      let (name, tag) ← properties
      let n ← number
      match ← peek with
      | .scalar s plain =>
        skip
        anchor name n
        keep name n (.scalar (scalarTag tag plain s) s)
      | .openBracket =>
        skip
        anchor name n
        keep name n (.seq n (collectionTag tag .seq) (← flowItems fuel true))
      | .openBrace =>
        skip
        anchor name n
        keep name n (.map n (collectionTag tag .map) (← flowPairs fuel true))
      | t =>
        if indentless && t = .entry then
          anchor name n
          keep name n (.seq n (collectionTag tag .seq) (← entries fuel))
        else if block && t = .blockSequence then
          skip
          anchor name n
          keep name n (.seq n (collectionTag tag .seq) (← blockItems fuel))
        else if block && t = .blockMapping then
          skip
          anchor name n
          keep name n (.map n (collectionTag tag .map) (← blockPairs fuel))
        else if name.isSome || tag.isSome then
          anchor name n
          keep name n (.scalar (scalarTag tag true []) [])
        else fail

/-- A node, or nothing before one of the given tokens. -/
def nodeUnless : (fuel : Nat) → (stops : List Token) → (block indentless : Bool) → Composer Node
  | 0, _, _, _ => fail
  | fuel + 1, stops, block, indentless => do
    if ← sees stops then return nothing else node fuel block indentless

/-- The entries of a block sequence up to its end. -/
def blockItems : (fuel : Nat) → Composer (List Node)
  | 0 => fail
  | fuel + 1 => do
    if ← accept .entry then
      let item ← nodeUnless fuel [.entry, .blockEnd] true false
      return item :: (← blockItems fuel)
    else if ← accept .blockEnd then return []
    else fail

/-- The entries of a block sequence without indentation. -/
def entries : (fuel : Nat) → Composer (List Node)
  | 0 => fail
  | fuel + 1 => do
    if ← accept .entry then
      let item ← nodeUnless fuel [.entry, .key, .value, .blockEnd] true false
      return item :: (← entries fuel)
    else return []

/-- The pairs of a block mapping up to its end. -/
def blockPairs : (fuel : Nat) → Composer (List (Node × Node))
  | 0 => fail
  | fuel + 1 => do
    let stops : List Token := [.key, .value, .blockEnd]
    if ← accept .key then
      let k ← nodeUnless fuel stops true true
      let v ← if ← accept .value then nodeUnless fuel stops true true else pure nothing
      return (k, v) :: (← blockPairs fuel)
    else if ← accept .blockEnd then return []
    else fail

/-- The items of a flow sequence up to its bracket. An item may be a single pair. -/
def flowItems : (fuel : Nat) → (first : Bool) → Composer (List Node)
  | 0, _ => fail
  | fuel + 1, first => do
    if ← accept .closeBracket then return []
    if !first && !(← accept .comma) then fail
    if ← accept .key then
      let n ← number
      let k ← nodeUnless fuel (.value :: flowStops) false false
      let v ← if ← accept .value then nodeUnless fuel flowStops false false else pure nothing
      return .map n .map [(k, v)] :: (← flowItems fuel false)
    else if ← accept .closeBracket then return []
    else
      let item ← node fuel false false
      return item :: (← flowItems fuel false)

/-- The pairs of a flow mapping up to its brace. -/
def flowPairs : (fuel : Nat) → (first : Bool) → Composer (List (Node × Node))
  | 0, _ => fail
  | fuel + 1, first => do
    if ← accept .closeBrace then return []
    if !first && !(← accept .comma) then fail
    let stops : List Token := [.comma, .closeBrace]
    if ← accept .key then
      let k ← nodeUnless fuel (.value :: stops) false false
      let v ← if ← accept .value then nodeUnless fuel stops false false else pure nothing
      return (k, v) :: (← flowPairs fuel false)
    else if ← accept .closeBrace then return []
    else
      let k ← node fuel false false
      return (k, nothing) :: (← flowPairs fuel false)

end

/-- The directives in front of a document. Each kind of version or handle may be declared once,
and the version has to be 1. -/
def settings : (fuel : Nat) → (versioned : Bool) → (handles : List (Text × Text)) → Composer Unit
  | 0, _, _ => fail
  | fuel + 1, versioned, handles => do
    match ← peek with
    | .setting s =>
      skip
      match s with
      | .version major _ =>
        if versioned || major ≠ 1 then fail
        settings fuel true handles
      | .tag handle start =>
        if (handles.lookup handle).isSome then fail
        settings fuel versioned ((handle, start) :: handles)
      | .other => settings fuel versioned handles
    | _ =>
      modify fun c => { c with handles := handles ++ commonHandles }

/-- The marks that end a document. -/
def documentEnds : (fuel : Nat) → Composer Unit
  | 0 => return
  | fuel + 1 => do
    if ← accept .documentEnd then documentEnds fuel

/-- A document with its mark in front. -/
def marked (fuel : Nat) : Composer Node := do
  settings fuel false []
  if !(← accept .documentStart) then fail
  match ← peek with
  | .setting _ | .documentStart | .documentEnd | .streamEnd => return nothing
  | _ => node fuel true false

/-- The single document of a text, if there is one. -/
def single (fuel : Nat) : Composer (Option Node) := do
  let root ← match ← peek with
    | .streamEnd => pure none
    | .setting _ | .documentStart => some <$> marked fuel
    | _ => some <$> node fuel true false
  documentEnds fuel
  if (← peek) = .streamEnd then return root else fail

end Composer

/-- The document of a row of tokens; none if there is nothing in it. -/
def documentOf? (ts : List Token) : Except Fault (Option Graph) := do
  let start : Composition := ⟨ts, commonHandles, [], [], 0⟩
  let (root, c) ← StateT.run (Composer.single (4 * ts.length + 4)) start
  return root.map fun node => ⟨node, c.anchored⟩

/-- The document of a text; none if the text is blank. -/
def document? (s : Text) : Except Fault (Option Graph) := do documentOf? (← tokens s)

end Yaml

end Scaffold
