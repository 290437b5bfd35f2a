import Scaffold.Text.Basic

/-!
# Paths

A path is a root and a list of components. Slashes between components count once, and a
component `.` is dropped; `..` stays. Two slashes in front are a root of their own, and three or
more are the same as one.

No path is built in any other form, so that its text says all there is to it.
-/

namespace Scaffold

namespace Path

/-- The roots there are: no slash, one, or two. -/
def roots : List Text := [[], ['/'], ['/', '/']]

/-- What stands between two slashes and counts. -/
def IsComponent (part : Text) : Prop := part ≠ [] ∧ part ≠ ['.'] ∧ '/' ∉ part

end Path

/-- A path. -/
structure Path where
  /-- No slash, one, or two. -/
  root : Text
  parts : List Text
  root_mem : root ∈ Path.roots
  isComponent : ∀ part ∈ parts, Path.IsComponent part
deriving DecidableEq, Repr

namespace Path

/-- The root of a written path. -/
def rootOf : Text → Text
  | '/' :: '/' :: '/' :: _ => ['/']
  | '/' :: '/' :: _ => ['/', '/']
  | '/' :: _ => ['/']
  | _ => []

theorem rootOf_mem (s : Text) : rootOf s ∈ roots := by
  unfold rootOf
  split <;> decide

/-- The components of a written path. -/
def partsOf (s : Text) : List Text :=
  (Text.splitOnChar '/' s).filter fun part => !part.isEmpty && part != ['.']

theorem isComponent_of_mem_partsOf {s part : Text} (h : part ∈ partsOf s) : IsComponent part := by
  simp only [partsOf, List.mem_filter, Bool.and_eq_true, Bool.not_eq_true',
    List.isEmpty_eq_false_iff, bne_iff_ne, ne_eq] at h
  exact ⟨h.2.1, h.2.2, Text.not_mem_of_mem_splitOnChar h.1⟩

/-- The path that a text writes. -/
def ofText (s : Text) : Path where
  root := rootOf s
  parts := partsOf s
  root_mem := rootOf_mem s
  isComponent _ := isComponent_of_mem_partsOf

instance : Inhabited Path := ⟨ofText []⟩

/-- The path as text. The path without root and components is `.`. -/
def text (p : Path) : Text :=
  if p.root.isEmpty && p.parts.isEmpty then ['.'] else p.root ++ Text.join ['/'] p.parts

/-- A path that does not depend on where it is looked up. -/
def isAbsolute (p : Path) : Bool := !p.root.isEmpty

/-- A path looked up under another one. -/
def under (base p : Path) : Path :=
  if p.isAbsolute then p
  else {
    root := base.root
    parts := base.parts ++ p.parts
    root_mem := base.root_mem
    isComponent := fun part h =>
      (List.mem_append.mp h).elim (base.isComponent part) (p.isComponent part) }

/-- The path without its last component. -/
def parent (p : Path) : Path where
  root := p.root
  parts := p.parts.dropLast
  root_mem := p.root_mem
  isComponent part h := p.isComponent part ((List.dropLast_sublist p.parts).mem h)

end Path

end Scaffold
