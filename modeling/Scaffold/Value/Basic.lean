import Scaffold.Calendar
import Scaffold.Decimal.Ratio
import Scaffold.Text.Basic

/-!
# Values

What variables hold and what a directive block decodes to: scalars, lists, sets and mappings
that keep the order of insertion.

## Sharing

In a document one mapping can stand at several places, and changing it at one changes it at
all. Such mappings carry a common `label`; a mapping without one stands at a single place. A
collection that contains itself has a `cycle` where it would begin again.
-/

namespace Scaffold

open Calendar

/-- A value. -/
inductive Value where
  | null
  | bool (b : Bool)
  | int (n : Int)
  | float (x : Float)
  | text (s : Text)
  | bytes (b : List UInt8)
  | date (d : Date)
  | moment (t : Moment)
  | list (items : List Value)
  | tuple (items : List Value)
  | set (items : List Value)
  | map (label : Option Nat) (entries : List (Value × Value))
  | cycle (label : Nat) (ofMap : Bool)
deriving Repr, Inhabited

namespace Value

/-- The word for the kind of a value. -/
def kindName : Value → Text
  | null => Text.of "NoneType"
  | bool _ => Text.of "bool"
  | int _ => Text.of "int"
  | float _ => Text.of "float"
  | text _ => Text.of "str"
  | bytes _ => Text.of "bytes"
  | date _ => Text.of "date"
  | moment _ => Text.of "datetime"
  | list _ => Text.of "list"
  | tuple _ => Text.of "tuple"
  | set _ => Text.of "set"
  | map .. => Text.of "dict"
  | cycle _ ofMap => Text.of (if ofMap then "dict" else "list")

/-! ### Numbers -/

/-- A truth value or an integer as an integer. -/
def integer? : Value → Option Int
  | bool b => some (if b then 1 else 0)
  | int n => some n
  | _ => none

/-- Whether two scalars are the same key: numbers by their value whatever their kind, times in
universal time, everything else by kind and content. -/
def sameScalar : Value → Value → Bool
  | null, null => true
  | float x, float y => x == y
  | float x, v => match Decimal.fraction? x, v.integer? with
    | some (num, den), some n => num == n * den
    | _, _ => false
  | v, float x => match Decimal.fraction? x, v.integer? with
    | some (num, den), some n => num == n * den
    | _, _ => false
  | text s, text t => s == t
  | bytes s, bytes t => s == t
  | date d, date e => d == e
  | moment s, moment t => s.zone.isSome == t.zone.isSome && s.instant == t.instant
  | v, w => match v.integer?, w.integer? with
    | some m, some n => m == n
    | _, _ => false

/-! ### Entries of a mapping -/

/-- The value under a key. -/
def lookup? (key : Value) : List (Value × Value) → Option Value
  | [] => none
  | (k, v) :: rest => if k.sameScalar key then some v else lookup? key rest

/-- The entries with a value put under a key: in place when the key is there, at the end
otherwise. -/
def insert (key value : Value) : List (Value × Value) → List (Value × Value)
  | [] => [(key, value)]
  | (k, v) :: rest =>
    if k.sameScalar key then (k, value) :: rest else (k, v) :: insert key value rest

end Value

end Scaffold
