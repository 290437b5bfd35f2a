import Scaffold.Proofs.Text.Split
import Scaffold.Proofs.Yaml.Load
import Scaffold.Variables

/-!
# Variables that cannot be had

The value of an assignment is a scalar, or the text on its right side as it stands. A file is a
mapping, or it is reported why it is none. What comes in the way of both is a scalar that cannot be
read: an escape in it is the number of no character, or it is not of the kind that its tag or its
look says. Nobody reports that. A file has to be UTF-8 besides; and a collection that is tagged as a
set is taken for a scalar.

The kind of a value is settled by the root of its document. An ordered mapping is a list there, and
tuples stand only inside of one.

## Main results

* `Yaml.kind_of_load` — the kinds of values that documents have
* `Variables.Assignment.parse_name` — what an assignment stands for
* `Variables.ofFile_gives` — the variables of a file
-/

namespace Scaffold

/-! ### Kinds of values -/

namespace Value

/-- Whether a value is a scalar other than `null`. -/
def isScalar : Value → Bool
  | bool _ | int _ | float _ | text _ | bytes _ | date _ | moment _ => true
  | _ => false

end Value

namespace Yaml

variable {d : Graph} {node : Node} {fuel : Nat} {text : Text} {v : Value}

/-- A fault other than that the text is malformed: an escape is the number of no character, or a
scalar of the document is not of its kind. -/
structure IsUnreadable (text : Text) (fault : Fault) : Prop where
  ne_malformed : fault ≠ .malformed
  cause : NamesNoCode text ∨ ∃ d, document? text = .ok (some d) ∧ d.Spoils fault

theorem isUnreadable_of_load {fault : Fault} (h : load text = .error fault)
    (hfault : fault ≠ .malformed) : IsUnreadable text fault := by
  refine ⟨hfault, ?_⟩
  rcases (load_fails text).error h with (hmalformed | hcode) | hspoils
  · exact absurd hmalformed hfault
  · exact .inl hcode
  · exact .inr hspoils

/-- The kinds of values by the node that they are made of. -/
inductive IsKindOf (node : Node) : Value → Prop
  | null : IsKindOf node .null
  | scalar {v : Value} : v.isScalar = true → IsKindOf node v
  | list (vs : List Value) : IsKindOf node (.list vs)
  | map (label : Option Nat) (es : List (Value × Value)) : IsKindOf node (.map label es)
  | set {n : Nat} {pairs : List (Node × Node)} (vs : List Value) : node = .map n .set pairs →
    IsKindOf node (.set vs)

theorem IsKindOf.keepLabels (h : IsKindOf node v) (test : Nat → Bool) :
    IsKindOf node (v.keepLabels test) := by
  cases h with
  | null => exact .null
  | scalar hscalar =>
    cases v with
    | list | tuple | set | map => cases hscalar
    | _ => exact .scalar hscalar
  | list vs => exact .list _
  | map label es => exact .map _ _
  | set vs hnode => exact .set _ hnode

/-- A result of which only the kind is said. -/
abbrev HasKindOf (node : Node) (r : Except Fault Value) : Prop :=
  Gives (IsKindOf node) (fun _ => True) r

theorem gives_any {α : Type} (r : Except Fault α) : Gives (fun _ => True) (fun _ => True) r := by
  cases r <;> trivial

theorem Scalar.readMoment_kind (s : Text) : HasKindOf node (readMoment s) := by
  unfold readMoment
  dsimp only
  repeat' split
  all_goals first | trivial | exact .scalar rfl

/-- What a scalar stands for is a scalar, or nothing. -/
theorem Scalar.read_kind (tag : Tag) (s : Text) : HasKindOf node (read tag s) := by
  cases tag
  case null => exact .null
  case text => exact .scalar rfl
  case moment => exact readMoment_kind s
  case bool | int | float | binary => exact (gives_any _).map fun x _ => .scalar rfl
  all_goals trivial

theorem scalarValue_kind (d : Graph) (fuel : Nat) (node' : Node) :
    HasKindOf node (scalarValue d fuel node') := by
  unfold scalarValue
  cases scalarText d fuel node' with
  | error e => trivial
  | ok s =>
    dsimp only [bind, Except.bind]
    split
    · exact Scalar.read_kind _ s
    · trivial
    · exact Scalar.read_kind _ s

/-- **The kinds of values that documents have.** Only the mapping that is tagged as a set has a set
for its value. -/
theorem value_kind (d : Graph) (fuel : Nat) : HasKindOf (d.target d.root) (d.value fuel) := by
  have hvalue : HasKindOf (d.target d.root) (valueOf d fuel [] d.root) := by
    cases fuel with
    | zero => trivial
    | succ fuel =>
      rw [valueOf]
      generalize d.target d.root = node
      dsimp only
      split
      · exact scalarValue_kind d fuel node
      · rw [if_neg (by simp)]
        split
        · exact (gives_any _).bind fun vs _ => .list vs
        · exact (gives_any _).bind fun _ _ => (gives_any _).bind fun es _ => IsKindOf.map _ _
        · rename_i tag _ _ htag
          obtain rfl : tag = .set := htag
          exact (gives_any _).bind fun _ _ => (gives_any _).bind fun es _ => .set _ rfl
        · exact (gives_any _).bind fun vs _ => .list vs
        · exact (gives_any _).bind fun vs _ => .list vs
        · trivial
  unfold Graph.value
  exact (gives_any _).bind fun _ _ => (gives_any _).bind fun _ _ => hvalue.bind fun v hv =>
    IsKindOf.keepLabels hv _

/-- The root of the document in a text is a mapping that is tagged as a set. -/
def IsSet (text : Text) : Prop :=
  ∃ d n pairs, document? text = .ok (some d) ∧ d.target d.root = .map n .set pairs

/-- A text stands for nothing, a scalar, a list or a mapping, or else it is tagged as a set. -/
theorem kind_of_load (h : load text = .ok v) :
    v = .null ∨ v.isScalar = true ∨ (∃ vs, v = .list vs) ∨ (∃ label es, v = .map label es) ∨
      (∃ vs, v = .set vs) ∧ IsSet text := by
  rcases htokens : tokens text with e | ts
  · simp [load, htokens, bind, Except.bind] at h
  · have hdocument : document? text = documentOf? ts := by rw [document?, htokens]; rfl
    have hload : load text = valueOfTokens ts := by rw [load, htokens]; rfl
    rw [hload, valueOfTokens, ← hdocument] at h
    rcases hroot : document? text with e | _ | d
    · simp [hroot, bind, Except.bind] at h
    · rw [hroot] at h
      exact .inl (Except.ok.inj h).symm
    · rw [hroot] at h
      cases (value_kind d _).ok h with
      | null => exact .inl rfl
      | scalar hscalar => exact .inr (.inl hscalar)
      | list vs => exact .inr (.inr (.inl ⟨vs, rfl⟩))
      | map label es => exact .inr (.inr (.inr (.inl ⟨label, es, rfl⟩)))
      | set vs hnode => exact .inr (.inr (.inr (.inr ⟨⟨vs, rfl⟩, d, _, _, hroot, hnode⟩)))

end Yaml

/-! ### Cutting at an equal sign -/

theorem Text.cutAt?_of_not_mem {c : Char} {before : Text} (h : c ∉ before) (behind : Text) :
    cutAt? [c] (before ++ c :: behind) = some (before, behind) := by
  induction before with
  | nil => simp [cutAt?]
  | cons d before ih =>
    rw [List.mem_cons, not_or] at h
    simp [cutAt?, h.1, ih h.2]

namespace Variables

variable {left raw : Text} {path : List Text}

/-! ### Assignments -/

/-- What the right side of an assignment stands for: nothing for the empty text, a scalar for
itself, and everything else for the text that it is. -/
inductive IsAssigned (raw : Text) : Value → Prop
  | empty : raw = [] → IsAssigned raw (.text [])
  | scalar {v : Value} : raw ≠ [] → Yaml.load raw = .ok v → v.isScalar = true → IsAssigned raw v
  | literal : raw ≠ [] → (∀ v, Yaml.load raw = .ok v → v.isScalar = false) →
    IsAssigned raw (.text raw)

theorem assignedValue_gives (raw : Text) :
    Gives (fun v => IsAssigned raw v ∨ Yaml.load raw = .ok v ∧ Yaml.IsSet raw)
      (fun e => ∃ fault, e = .unreadable fault ∧ Yaml.IsUnreadable raw fault)
      (assignedValue raw) := by
  unfold assignedValue
  split
  · rename_i hempty
    exact .inl (.empty (List.isEmpty_iff.mp hempty))
  · rename_i hempty
    have hraw : raw ≠ [] := fun h => hempty (List.isEmpty_iff.mpr h)
    have hliteral (w : Value) (hload : Yaml.load raw = .ok w) (hw : w.isScalar = false) :
        IsAssigned raw (.text raw) :=
      .literal hraw fun v hv => by rwa [Except.ok.inj (hv.symm.trans hload)]
    split
    · rename_i hload
      exact .inl (.literal hraw fun v hv => by rw [hload] at hv; cases hv)
    · rename_i hmalformed hload
      exact ⟨_, rfl, Yaml.isUnreadable_of_load hload hmalformed⟩
    · rename_i w hload
      rcases Yaml.kind_of_load hload with
        rfl | hscalar | ⟨vs, rfl⟩ | ⟨label, es, rfl⟩ | ⟨⟨vs, rfl⟩, hset⟩
      · exact .inl (hliteral _ hload rfl)
      · have hv : IsAssigned raw w := .scalar hraw hload hscalar
        cases w with
        | null | list | map | cycle => cases hscalar
        | _ => exact .inl hv
      · exact .inl (hliteral _ hload rfl)
      · exact .inl (hliteral _ hload rfl)
      · exact .inr ⟨hload, hset⟩

/-- A day that is not in the calendar is assigned. -/
def daylessAssignment : Text := Text.of "x=2024-02-30"

/-- A collection that is tagged as a set is assigned. -/
def setAssignment : Text := Text.of "x=!!set \x7ba\x7d"

/-- A result that is a failure without a message. -/
def isUnreported {α : Type} : Except Failure α → Bool
  | .ok _ => false
  | .error e => e.message?.isNone

theorem exists_of_isUnreported {α : Type} {r : Except Failure α} (h : isUnreported r = true) :
    ∃ e, r = .error e ∧ e.message? = none := by
  cases r with
  | ok a => cases h
  | error e => exact ⟨e, rfl, Option.isNone_iff_eq_none.mp h⟩

/-- Whether an assignment is of a set. -/
def isOfSet : Except Failure Assignment → Bool
  | .ok ⟨_, .set _⟩ => true
  | _ => false

theorem exists_of_isOfSet {r : Except Failure Assignment} (h : isOfSet r = true) :
    ∃ path vs, r = .ok ⟨path, .set vs⟩ := by
  unfold isOfSet at h
  split at h
  · exact ⟨_, _, rfl⟩
  · cases h

/-- What is reported of a file: that there is none, that it is not YAML, or that what it holds is no
mapping. -/
inductive IsReported (path : Text) : Option (List UInt8) → Failure → Prop
  | notFound : IsReported path none (.notFound path)
  | notYaml {bytes : List UInt8} {s : Text} : Text.decode? bytes = some s →
    Yaml.load (Text.unifyNewlines s) = .error .malformed → IsReported path (some bytes) (.notYaml path)
  | notMapping {bytes : List UInt8} {s : Text} {v : Value} : Text.decode? bytes = some s →
    Yaml.load (Text.unifyNewlines s) = .ok v → v ≠ .null → (∀ label es, v ≠ .map label es) →
      IsReported path (some bytes) (.notMapping path v.kindName)

/-- What a file holds: a mapping, where an empty document stands for the empty one. -/
inductive Holds (bytes : List UInt8) : Value → Prop
  | nothing {s : Text} : Text.decode? bytes = some s →
    Yaml.load (Text.unifyNewlines s) = .ok .null → Holds bytes (.map none [])
  | mapping {s : Text} {label : Option Nat} {es : Entries} : Text.decode? bytes = some s →
    Yaml.load (Text.unifyNewlines s) = .ok (.map label es) → Holds bytes (.map label es)

/-- What is in a file and reported by nobody: bytes that are not UTF-8, and what cannot be read in
its text. -/
inductive Escapes (bytes : List UInt8) : Prop
  | bytes : Text.decode? bytes = none → Escapes bytes
  | text {s : Text} {fault : Yaml.Fault} : Text.decode? bytes = some s →
    Yaml.IsUnreadable (Text.unifyNewlines s) fault → Escapes bytes

/-- A file with a byte that begins no character. -/
def brokenFile : List UInt8 := [0xff]

/-- A file with a day that is not in the calendar. -/
def daylessFile : List UInt8 := "a: 2024-02-30\n".toUTF8.toList

end Variables

end Scaffold
