import Scaffold.Decimal.Fixed
import Scaffold.Template.Filter.Key

/-!
# Filters for numbers

Reading, rounding and adding numbers. What cannot be read as a number becomes a default.
-/

namespace Scaffold

namespace Template

namespace Apply

open Item

/-- The characters that bytes are read as when a number is looked for in them. -/
def charactersOf (b : List UInt8) : Text := b.map fun u => Char.ofNat u.toNat

/-- An item read as a floating-point number. -/
def asReal (item : Item) : Except Fault Float :=
  match item with
  | .undefined _ => .error .undefined
  | .text _ s => (Decimal.read? s).elim (.error .badValue) .ok
  | .bytes b => (Decimal.read? (charactersOf b)).elim (.error .badValue) .ok
  | item => match item.number? with
    | some n => n.toReal
    | none => .error .unfit

/-- An item read as a whole number. A base is only for text. -/
def asWhole (item base : Item) : Except Fault Int :=
  match item with
  | .undefined _ => .error .undefined
  | .text _ s => do
    let base ← TextMethod.wholeOf base
    if base = 0 || (2 ≤ base && base ≤ 36) then
      (readWhole? base.toNat s).elim (.error .badValue) .ok
    else .error .badValue
  | .bytes b => (readWhole? 10 (charactersOf b)).elim (.error .badValue) .ok
  | item => match item.number? with
    | some (.whole n) => .ok n
    | some (.real x) => Item.truncate x
    | none => .error .unfit

/-- Whether a fault tells that something is no number. -/
def isNoNumber : Fault → Bool
  | .unfit | .badValue => true
  | _ => false

/-- A whole number. What is none is read as a floating-point number and cut off. -/
def runInt (item : Item) (g : Given) : Work Item := do
  let [default, base] ← lift
      (g.forParameters [("default", some (.nat 0)), ("base", some (.nat 10))])
    | throw .unfit
  match asWhole item base with
  | .ok n => return .int n
  | .error fault =>
    if !isNoNumber fault then throw fault
    match asReal item >>= Item.truncate with
    | .ok n => return .int n
    | .error fault => if isNoNumber fault || fault = .tooLarge then return default else throw fault

/-- A floating-point number. -/
def runFloat (item : Item) (g : Given) : Work Item := do
  let [default] ← lift (g.forParameters [("default", some (.float 0.0))]) | throw .unfit
  match asReal item with
  | .ok x => return .float x
  | .error fault => if isNoNumber fault then return default else throw fault

/-- A number without its sign. -/
def runAbs (item : Item) (g : Given) : Work Item := do
  let _ ← lift (g.forParameters [])
  match item.number? with
  | some n => return absNumber n
  | none => throw .unfit

/-- A number rounded up or down to a whole one. -/
def roundedBy (round : Float → Option Int) (item : Item) : Except Fault Int :=
  match item.number? with
  | some (.whole n) => .ok n
  | some (.real x) => match round x with
    | some n => .ok n
    | none => .error (if x.isNaN then .badValue else .tooLarge)
  | none => .error .unfit

/-- A number rounded to so many places. Without a number of places it becomes whole. -/
def roundCommon (item precision : Item) : Except Fault Item :=
  match item.number?, precision with
  | none, _ => .error .unfit
  | some (.whole n), .null => .ok (.int n)
  | some (.real x), .null => match Decimal.roundedToPlaces? x 0 with
    | some y => (Item.truncate y).map .int
    | none => .error .tooLarge
  | some n, precision => do roundNumber (← TextMethod.wholeOf precision) n

/-- A number rounded to so many places: to the nearest, up, or down. -/
def runRound (item : Item) (g : Given) : Work Item := do
  let [precision, way] ← lift (g.forParameters
    [("precision", some (.nat 0)), ("method", some (.plain (Text.of "common")))]) | throw .unfit
  let .text _ way := way
    | do
      lift (way.checkKey (← heap))
      throw .misuse
  let scaled (round : Float → Option Int) : Work Item := do
    let unit ← operate .pow (.nat 10) precision
    let n ← lift (roundedBy round (← operate .mul item unit))
    operate .div (.int n) unit
  if way = Text.of "common" then lift (roundCommon item precision)
  else if way = Text.of "ceil" then scaled Decimal.ceiling?
  else if way = Text.of "floor" then scaled Decimal.floor?
  else throw .misuse

/-- The units of sizes. -/
def sizeUnits (binary : Bool) : List Text :=
  ['k', 'M', 'G', 'T', 'P', 'E', 'Z', 'Y'].map fun c =>
    (if binary then [c.toUpper, 'i'] else [c]) ++ ['B']

/-- A size in the smallest unit that keeps it below the next one. -/
def sizeText (base : Nat) (x : Float) : (power : Nat) → List Text → Text
  | _, [] => []
  | power, name :: names =>
    let limit : Float := Float.ofNat (Nat.pow base (power + 1))
    if x < limit || names.isEmpty then
      let y := Float.ofNat base * x / limit
      (if Decimal.isNegative y then ['-'] else []) ++ Decimal.formatted .fixed 1 false y ++
        ' ' :: name
    else sizeText base x (power + 1) names

/-- A number of bytes for people. -/
def runFileSize (item : Item) (g : Given) : Work Item := do
  let [binary] ← lift (g.forParameters [("binary", some (.bool false))]) | throw .unfit
  let x ← lift (asReal item)
  let binary ← isTrue binary
  let base := if binary then 1024 else 1000
  if x == 1.0 then return .plain (Text.of "1 Byte")
  else if x < Float.ofNat base then
    return .plain (Text.ofInt (← lift (Item.truncate x)) ++ Text.of " Bytes")
  else return .plain (sizeText base x 1 (sizeUnits binary))

/-- The sum of items, or of an attribute of each. -/
def runSum (set : Setting) (item : Item) (g : Given) : Work Item := do
  let [attr, start] ← lift (g.forParameters
    [("attribute", some .null), ("start", some (.nat 0))]) | throw .unfit
  let items ← takeAll item
  let path ← lift (pathOf attr)
  if start matches .text .. | .bytes _ then throw .unfit
  items.foldlM (fun sum i => do operate .add sum (← follow set path .null i)) start

end Apply

end Template

end Scaffold
