import Scaffold.Proofs.Keeps
import Scaffold.Template.Filter.Key
import Scaffold.Template.Place

/-!
# Steps that find every template

A template is looked up in few places, and only there does rendering come to one that is missing.
That a step does not come to this fault is passed on from its parts, like every statement about
faults; but rendering also keeps things for later. A routine, a block and a loop that can be called
have statements which are carried out when they are called, by whoever gets hold of them, and a
stream keeps the fault that it ended with. So it is an invariant of the cells that none of this
comes to a template that is missing either.

Which statements do not is a parameter here. Statements that refer to no template, or only to those
that are there, are told apart later.

The lemmas for the forms that a step can have are tagged for `grind`, backwards from what is to be
shown, and so are those for the steps of the library in the modules behind this one. What is left to
say in most of them is how a function has its cases.

## Main definitions

* `Template.NeverMissing` — a result that is not the fault of a template that is missing
* `Template.AreSupplied` — cells that keep nothing for later which comes to that fault
* `Template.Supplies` — a step that keeps cells so, and gives answers and faults as told
* `Template.FindsAll` — a step that keeps cells so, and does not come to that fault itself
-/

namespace Scaffold

namespace Template

variable {α β : Type}

/-! ### Results -/

/-- A result that is not the fault of a template that is missing. -/
def NeverMissing (r : Except Fault α) : Prop := FailsAs (· ≠ .missingTemplate) r

namespace NeverMissing

variable {r : Except Fault α} {f : Fault}

@[grind ←] theorem ok (a : α) : NeverMissing (.ok a) := trivial

@[grind ←] theorem pure (a : α) : NeverMissing (Pure.pure a) := trivial

@[grind ←] theorem error (h : f ≠ .missingTemplate) : NeverMissing (.error f : Except Fault α) := h

@[grind ←] theorem throw (h : f ≠ .missingTemplate) : NeverMissing (throw f : Except Fault α) := h

theorem ne (h : NeverMissing r) (hr : r = .error f) : f ≠ .missingTemplate := by
  rw [hr] at h
  exact h

@[grind ←] theorem bind {k : α → Except Fault β} (h : NeverMissing r)
    (hk : ∀ a, NeverMissing (k a)) : NeverMissing (r >>= k) :=
  Gives.bind h fun a _ => hk a

@[grind ←] theorem map {g : α → β} (h : NeverMissing r) : NeverMissing (r.map g) :=
  Gives.map h fun _ _ => trivial

@[grind ←] theorem mapM {xs : List α} {k : α → Except Fault β} (h : ∀ a, NeverMissing (k a)) :
    NeverMissing (xs.mapM k) :=
  (Gives.mapM (fun _ => True) fun a _ => h a).mono (fun _ _ => trivial) fun _ hf => hf

@[grind ←] theorem foldlM {xs : List α} {k : β → α → Except Fault β} {b : β}
    (h : ∀ b a, NeverMissing (k b a)) : NeverMissing (xs.foldlM k b) :=
  Gives.foldlM (fun _ => True) trivial fun b _ a _ => h b a

@[grind ←] theorem filterM {xs : List α} {k : α → Except Fault Bool}
    (h : ∀ a, NeverMissing (k a)) : NeverMissing (xs.filterM k) := by
  have haux (acc : List α) : NeverMissing (List.filterAuxM k xs acc) := by
    induction xs generalizing acc with
    | nil => exact ok acc
    | cons x xs ih => exact (h x).bind fun b => ih _
  exact (haux []).bind fun kept => pure _

end NeverMissing

/-! ### Cells -/

/-- What a cell keeps for later does not come to a template that is missing: its statements are as
told, and no fault that it keeps is that one. -/
@[grind =] def Cell.IsSupplied (ok : List Stmt → Prop) : Cell → Prop
  | .routine r => ok r.body
  | .loop l => (∀ x ∈ l.again, ok [x.1]) ∧ l.source.failure ≠ some .missingTemplate
  | .context c => ∀ x ∈ c.blocks, ∀ code ∈ x.2, ok code.body
  | .stream _ failure => failure ≠ some .missingTemplate
  | .list _ | .map _ | .set _ | .space _ | .cycler .. | .joiner .. | .module _ | .frame _
  | .base _ => True

/-- Cells that keep nothing for later which comes to a template that is missing. -/
def AreSupplied (ok : List Stmt → Prop) (cells : Array Cell) : Prop :=
  ∀ (a : Address) (c : Cell), cells[a]? = some c → c.IsSupplied ok

theorem AreSupplied.push {ok : List Stmt → Prop} {cells : Array Cell} {c : Cell}
    (h : AreSupplied ok cells) (hc : c.IsSupplied ok) : AreSupplied ok (cells.push c) := by
  intro a c' hc'
  rw [Array.getElem?_push] at hc'
  split at hc'
  · cases hc'
    exact hc
  · exact h a c' hc'

theorem AreSupplied.set {ok : List Stmt → Prop} {cells : Array Cell} {c : Cell}
    (h : AreSupplied ok cells) (a : Address) (hc : c.IsSupplied ok) :
    AreSupplied ok (cells.setIfInBounds a c) := by
  intro b c' hc'
  rw [Array.getElem?_setIfInBounds] at hc'
  split at hc'
  · split at hc'
    · cases hc'
      exact hc
    · cases hc'
  · exact h b c' hc'

/-! ### Steps -/

/-- A step that keeps nothing for later which comes to a template that is missing, with an answer or
a fault that has a property. -/
def Supplies (ok : List Stmt → Prop) (good : α → Prop) (expected : Fault → Prop) (m : Work α) :
    Prop :=
  ∀ s, AreSupplied ok s.cells → match m s with
    | .ok a s' => AreSupplied ok s'.cells ∧ good a
    | .error f s' => AreSupplied ok s'.cells ∧ expected f

/-- Every fault but that of a template that is missing. -/
abbrev NotMissing (f : Fault) : Prop := f ≠ .missingTemplate

/-- A step that does not come to a template that is missing, neither now nor by what it keeps for
later. -/
def FindsAll (ok : List Stmt → Prop) (m : Work α) : Prop :=
  Supplies ok (fun _ => True) NotMissing m

variable {ok : List Stmt → Prop} {good : α → Prop} {better : β → Prop} {expected : Fault → Prop}
  {m : Work α}

namespace Supplies

theorem bind {k : α → Work β} (h : Supplies ok good expected m)
    (hk : ∀ a, good a → Supplies ok better expected (k a)) :
    Supplies ok better expected (m >>= k) := by
  intro s hs
  have hm := h s hs
  simp only [Bind.bind, EStateM.bind]
  cases hrun : m s with
  | ok a s' =>
    rw [hrun] at hm
    exact hk a hm.2 s' hm.1
  | error f s' =>
    rw [hrun] at hm
    exact hm

theorem pure {a : α} (h : good a) : Supplies ok good expected (Pure.pure a) := fun _ hs => ⟨hs, h⟩

theorem throw {f : Fault} (h : expected f) : Supplies ok good expected (throw f : Work α) :=
  fun _ hs => ⟨hs, h⟩

/-- Nothing is carried out behind a fault. -/
theorem throw_bind {f : Fault} {k : α → Work β} (h : expected f) :
    Supplies ok better expected (MonadExcept.throw f >>= k) :=
  fun _ hs => ⟨hs, h⟩

theorem ite {c : Prop} [Decidable c] {m m' : Work α} (h : Supplies ok good expected m)
    (h' : Supplies ok good expected m') : Supplies ok good expected (if c then m else m') := by
  split
  · exact h
  · exact h'

theorem mono (h : Supplies ok good expected m) {good' : α → Prop} {expected' : Fault → Prop}
    (hgood : ∀ a, good a → good' a) (hexpected : ∀ f, expected f → expected' f) :
    Supplies ok good' expected' m := by
  intro s hs
  have hm := h s hs
  cases hrun : m s with
  | ok a s' =>
    rw [hrun] at hm
    exact ⟨hm.1, hgood a hm.2⟩
  | error f s' =>
    rw [hrun] at hm
    exact ⟨hm.1, hexpected f hm.2⟩

theorem findsAll (h : Supplies ok good NotMissing m) : FindsAll ok m :=
  h.mono (fun _ _ => trivial) fun _ hf => hf

theorem heap : Supplies ok (AreSupplied ok) expected heap := fun _ hs => ⟨hs, hs⟩

theorem cellAt (a : Address) : Supplies ok (Cell.IsSupplied ok) NotMissing (cellAt a) := by
  intro s hs
  rw [Template.cellAt]
  cases hcell : s.cells[a]? with
  | some c => exact ⟨hs, hs a c hcell⟩
  | none => exact ⟨hs, by decide⟩

theorem lift {r : Except Fault α} (h : Gives good expected r) :
    Supplies ok good expected (lift r) := by
  intro s hs
  cases r with
  | ok a => exact ⟨hs, h⟩
  | error f => exact ⟨hs, h⟩

/-- The fault that a step ends with is kept as an answer. -/
theorem attempt (h : Supplies ok good expected m) {expected' : Fault → Prop} :
    Supplies ok (Gives good expected) expected' (attempt m) := by
  intro s hs
  have hm := h s hs
  rw [Template.attempt]
  cases hrun : m s <;>
  · rw [hrun] at hm
    exact hm

end Supplies

namespace FindsAll

@[grind ←] theorem pure (a : α) : FindsAll ok (Pure.pure a) := Supplies.pure trivial

@[grind ←] theorem throw {f : Fault} (h : f ≠ .missingTemplate) :
    FindsAll ok (throw f : Work α) := Supplies.throw h

@[grind ←] theorem bind {k : α → Work β} (h : FindsAll ok m) (hk : ∀ a, FindsAll ok (k a)) :
    FindsAll ok (m >>= k) :=
  Supplies.bind h fun a _ => hk a

/-- A step behind one of which nothing else is known. -/
theorem andThen {k : α → Work β} (h : FindsAll ok m)
    (hk : ∀ a, Supplies ok better NotMissing (k a)) : Supplies ok better NotMissing (m >>= k) :=
  Supplies.bind h fun a _ => hk a

theorem ite {c : Prop} [Decidable c] {m m' : Work α} (h : FindsAll ok m) (h' : FindsAll ok m') :
    FindsAll ok (if c then m else m') := Supplies.ite h h'

@[grind ←] theorem functorMap {g : α → β} (h : FindsAll ok m) : FindsAll ok (g <$> m) := by
  rw [← bind_pure_comp]
  exact h.bind fun a => pure (g a)

@[grind ←] theorem lift {r : Except Fault α} (h : NeverMissing r) : FindsAll ok (lift r) :=
  Supplies.lift h

@[grind ←] theorem heap : FindsAll ok heap :=
  Supplies.findsAll Supplies.heap

theorem heap_bind {k : Array Cell → Work β}
    (hk : ∀ cells, FindsAll ok (k cells)) : FindsAll ok (Template.heap >>= k) :=
  heap.bind hk

@[grind ←] theorem cellAt_bind {a : Address} {k : Cell → Work β}
    (hk : ∀ c : Cell, c.IsSupplied ok → FindsAll ok (k c)) : FindsAll ok (cellAt a >>= k) :=
  (Supplies.cellAt a).bind hk

@[grind ←] theorem attempt_bind {k : Except Fault α → Work β} (h : FindsAll ok m)
    (hk : ∀ r, NeverMissing r → FindsAll ok (k r)) : FindsAll ok (attempt m >>= k) :=
  (Supplies.attempt h).bind hk

/-! ### Writing -/

@[grind ←] theorem setCell {a : Address} {c : Cell} (h : c.IsSupplied ok) :
    FindsAll ok (setCell a c) :=
  fun _ hs => ⟨hs.set a h, trivial⟩

@[grind ←] theorem allocate {c : Cell} (h : c.IsSupplied ok) : FindsAll ok (allocate c) :=
  fun _ hs => ⟨hs.push h, trivial⟩

@[grind ←] theorem refTo {c : Cell} (h : c.IsSupplied ok) : FindsAll ok (refTo c) :=
  (allocate h).bind fun _ => pure _

@[grind ←] theorem newList (items : List Item) : FindsAll ok (newList items) := refTo trivial

@[grind ←] theorem newMap (es : List (Item × Item)) : FindsAll ok (newMap es) := refTo trivial

@[grind ←] theorem newStream (items : List Item) : FindsAll ok (newStream items) := refTo nofun

@[grind ←] theorem put (s : Text) : FindsAll ok (put s) := fun _ hs => ⟨hs, trivial⟩

@[grind ←] theorem captured {m : Work Unit} (h : FindsAll ok m) : FindsAll ok (captured m) := by
  intro s hs
  have hm := h { s with out := [] } hs
  rw [Template.captured]
  cases hrun : m { s with out := [] } <;>
  · rw [hrun] at hm
    exact hm

/-! ### Steps for all of some values -/

@[grind ←] theorem mapM {xs : List α} {k : α → Work β} (h : ∀ a, FindsAll ok (k a)) :
    FindsAll ok (xs.mapM k) := by
  induction xs with
  | nil => exact pure []
  | cons x xs ih =>
    rw [List.mapM_cons]
    exact (h x).bind fun b => ih.bind fun rest => pure _

@[grind ←] theorem foldlM {xs : List α} {k : β → α → Work β} {b : β}
    (h : ∀ b a, FindsAll ok (k b a)) : FindsAll ok (xs.foldlM k b) := by
  induction xs generalizing b with
  | nil => exact pure b
  | cons x xs ih =>
    rw [List.foldlM_cons]
    exact (h b x).bind fun b' => ih

@[grind ←] theorem filterM {xs : List α} {k : α → Work Bool} (h : ∀ a, FindsAll ok (k a)) :
    FindsAll ok (xs.filterM k) := by
  have haux (acc : List α) : FindsAll ok (List.filterAuxM k xs acc) := by
    induction xs generalizing acc with
    | nil => exact pure acc
    | cons x xs ih => exact (h x).bind fun b => ih _
  exact (haux []).bind fun kept => pure _

@[grind ←] theorem filterMapM {xs : List α} {k : α → Work (Option β)}
    (h : ∀ a, FindsAll ok (k a)) : FindsAll ok (xs.filterMapM k) := by
  induction xs with
  | nil => exact pure []
  | cons x xs ih =>
    rw [List.filterMapM_cons]
    refine (h x).bind fun made => ?_
    cases made with
    | none => exact ih
    | some b => exact ih.bind fun rest => pure _

@[grind ←] theorem anyM {xs : List α} {k : α → Work Bool} (h : ∀ a, FindsAll ok (k a)) :
    FindsAll ok (xs.anyM k) := by
  induction xs with
  | nil => exact pure false
  | cons x xs ih =>
    rw [List.anyM]
    refine (h x).bind fun b => ?_
    cases b
    · exact ih
    · exact pure true

@[grind ←] theorem forM {xs : List α} {k : α → Work PUnit} (h : ∀ a, FindsAll ok (k a)) :
    FindsAll ok (xs.forM k) := by
  induction xs with
  | nil => exact pure _
  | cons x xs ih =>
    exact (h x).bind fun _ => ih

@[grind ←] theorem forIn {xs : List α} {b : β} {k : α → β → Work (ForInStep β)}
    (h : ∀ a b, FindsAll ok (k a b)) : FindsAll ok (forIn xs b k) := by
  induction xs generalizing b with
  | nil => exact pure b
  | cons x xs ih =>
    rw [List.forIn_cons]
    refine (h x b).bind fun step => ?_
    cases step with
    | done b => exact pure b
    | yield b => exact ih

end FindsAll

end Template

end Scaffold
