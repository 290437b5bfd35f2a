import Scaffold.Value.Basic

/-!
# Labels of shared mappings

A label matters only when it occurs more than once; every other one is dropped.
-/

namespace Scaffold

namespace Value

mutual

/-- The labels in a value, each as often as it occurs. -/
def labels : Value → List Nat
  | list vs | tuple vs | set vs => labelsOfAll vs
  | map label es => label.toList ++ labelsOfEntries es
  | cycle label _ => [label]
  | _ => []

/-- The labels in values. -/
def labelsOfAll : List Value → List Nat
  | [] => []
  | v :: vs => v.labels ++ labelsOfAll vs

/-- The labels in entries. -/
def labelsOfEntries : List (Value × Value) → List Nat
  | [] => []
  | (k, v) :: es => k.labels ++ v.labels ++ labelsOfEntries es

end

mutual

/-- A value with only the labels that pass the test. -/
def keepLabels (test : Nat → Bool) : Value → Value
  | list vs => list (keepLabelsOfAll test vs)
  | tuple vs => tuple (keepLabelsOfAll test vs)
  | set vs => set (keepLabelsOfAll test vs)
  | map label es => map (label.filter test) (keepLabelsOfEntries test es)
  | v => v

/-- Values with only the labels that pass the test. -/
def keepLabelsOfAll (test : Nat → Bool) : List Value → List Value
  | [] => []
  | v :: vs => v.keepLabels test :: keepLabelsOfAll test vs

/-- Entries with only the labels that pass the test. -/
def keepLabelsOfEntries (test : Nat → Bool) : List (Value × Value) → List (Value × Value)
  | [] => []
  | (k, v) :: es => (k.keepLabels test, v.keepLabels test) :: keepLabelsOfEntries test es

end

/-- A value with only the labels that occur more than once. -/
def onlyShared (v : Value) : Value :=
  let all := v.labels
  v.keepLabels fun label => 1 < all.count label

end Value

end Scaffold
