import Scaffold.Proofs.Keeps
import Scaffold.Proofs.Template.Base
import Scaffold.Proofs.Template.Risk

/-!
# The shapes of cells

What a step of rendering can come to depends on the cells that its items refer to. A cell changes,
but what it is does not: a mapping stays a mapping, and a scope keeps its names. So every cell that
matters has a shape, and a step is judged by the shapes alone. It finds cells as their shapes tell,
leaves them so, and adds further ones.

Some faults are reckoned with, and a step comes to no other one. A whole number that is too long to
be written is sound only where that fault is among them.

## Main definitions

* `Template.Shapes.Describes` — the shapes of the cells at hand
* `Template.Item.IsSound`, `Template.Cell.Fits` — items that refer to cells of such shapes
* `Template.Abides` — a step that keeps the shapes and comes to no other fault

## Implementation notes

Shapes are given to addresses, and not all of them need to have one. What was there before rendering
began has none, so nothing is said of it.
-/

namespace Scaffold

namespace Template

/-- Faults that are reckoned with. Those of the template as such are always among them, and that
items nest too deep; but not every fault is. -/
structure Reckoning where
  has : Fault → Prop
  ofTemplate : ∀ {f : Fault}, f.isOfTemplate = true → has f
  tooDeep : has .tooDeep
  isProper : ¬∀ f ∈ Fault.ofValues, has f

/-- It is reckoned with all of some faults. -/
abbrev Reckoning.hasAll (E : Reckoning) (faults : List Fault) : Prop := ∀ f ∈ faults, E.has f

theorem Reckoning.undefined (E : Reckoning) : E.has .undefined := E.ofTemplate rfl

theorem Reckoning.misuse (E : Reckoning) : E.has .misuse := E.ofTemplate rfl

/-- What a cell is. -/
inductive Shape
  /-- A collection, or a routine. -/
  | value
  | loop
  | context
  /-- Whether the base of a template is known. -/
  | base
  /-- A scope with the names. -/
  | frame (names : List Text)
  /-- A scope that is still to be made. -/
  | reserved (names : List Text)

/-- The shapes of cells, where they matter. -/
def Shapes := Address → Option Shape

namespace Shapes

variable {σ τ υ : Shapes} {a : Address} {shape : Shape}

/-- Whether a cell keeps its shape. -/
def isSettled : Shape → Bool
  | .reserved _ => false
  | _ => true

/-- Further cells get shapes, and scopes are made that were still to be made. -/
def Grows (σ τ : Shapes) : Prop :=
  ∀ a shape, σ a = some shape →
    τ a = some shape ∨ ∃ names, shape = .reserved names ∧ τ a = some (.frame names)

theorem Grows.refl (σ : Shapes) : σ.Grows σ := fun _ _ h => .inl h

theorem Grows.settled (h : σ.Grows τ) (ha : σ a = some shape) (hshape : isSettled shape = true) :
    τ a = some shape := by
  rcases h a shape ha with h | ⟨names, rfl, -⟩
  · exact h
  · cases hshape

theorem Grows.trans (h : σ.Grows τ) (h' : τ.Grows υ) : σ.Grows υ := by
  intro a shape ha
  rcases h a shape ha with ha' | ⟨names, rfl, ha'⟩
  · exact h' a shape ha'
  · exact .inr ⟨names, rfl, h'.settled ha' rfl⟩

/-- The shapes with one more. -/
def put (σ : Shapes) (a : Address) (shape : Shape) : Shapes :=
  fun b => if b = a then some shape else σ b

@[simp] theorem put_self (σ : Shapes) (a : Address) (shape : Shape) :
    σ.put a shape a = some shape := if_pos rfl

theorem put_of_ne {b : Address} (h : b ≠ a) : σ.put a shape b = σ b := if_neg h

theorem grows_put_of_none (h : σ a = none) : σ.Grows (σ.put a shape) := by
  intro b shape' hb
  rw [put_of_ne fun heq => by simp [heq, h] at hb]
  exact .inl hb

theorem grows_put_of_reserved {names : List Text} (h : σ a = some (.reserved names)) :
    σ.Grows (σ.put a (.frame names)) := by
  intro b shape' hb
  by_cases heq : b = a
  · subst heq
    obtain rfl := Option.some.inj (h.symm.trans hb)
    exact .inr ⟨names, rfl, put_self ..⟩
  · rw [put_of_ne heq]
    exact .inl hb

end Shapes

/-! ### Items -/

/-- Whole numbers can be written, if it is not reckoned with that one cannot. -/
def AreWritable (E : Reckoning) (ns : List Int) : Prop :=
  ∀ n ∈ ns, Item.isLong n = true → E.has .badValue

/-- An item that comes up where no function was called. What it refers to is a value, or else a loop
whose turns can be too many to be written. -/
inductive Item.IsSound (E : Reckoning) (σ : Shapes) : Item → Prop
  | undefined (strict : Bool) : IsSound E σ (.undefined strict)
  | null : IsSound E σ .null
  | bool (b : Bool) : IsSound E σ (.bool b)
  | int {n : Int} : AreWritable E [n] → IsSound E σ (.int n)
  | float (x : Float) : IsSound E σ (.float x)
  | text (safe : Bool) (s : Text) : IsSound E σ (.text safe s)
  | bytes (b : List UInt8) : IsSound E σ (.bytes b)
  | date {d : Calendar.Date} : AreWritable E (numbersOfDate d) → IsSound E σ (.date d)
  | moment {t : Calendar.Moment} : AreWritable E (numbersOfMoment t) → IsSound E σ (.moment t)
  | tuple (isGroup : Bool) {items : List Item} : (∀ i ∈ items, IsSound E σ i) →
    IsSound E σ (.tuple isGroup items)
  | builtin (f : Builtin) : IsSound E σ (.builtin f)
  | method (self : Item) (name : Text) : IsSound E σ (.method self name)
  | self (name : Option Text) {context : Address} : σ context = some .context →
    IsSound E σ (.self name context)
  | block (name : Text) (depth : Nat) (context : Address) : IsSound E σ (.block name depth context)
  | value {a : Address} : σ a = some .value → IsSound E σ (.ref a)
  | loop {a : Address} : σ a = some .loop → E.has .badValue → IsSound E σ (.ref a)

/-- Items that are all sound. -/
abbrev AreSound (E : Reckoning) (σ : Shapes) (items : List Item) : Prop :=
  ∀ i ∈ items, i.IsSound E σ

/-- Names that stand for sound items. -/
abbrev AreBound (E : Reckoning) (σ : Shapes) (names : List (Text × Item)) : Prop :=
  ∀ x ∈ names, x.2.IsSound E σ

/-- Entries of sound items. -/
abbrev AreEntries (E : Reckoning) (σ : Shapes) (es : List (Item × Item)) : Prop :=
  ∀ e ∈ es, e.1.IsSound E σ ∧ e.2.IsSound E σ

theorem mem_of_lookup {κ α : Type} [BEq κ] [LawfulBEq κ] {xs : List (κ × α)} {key : κ} {v : α}
    (h : xs.lookup key = some v) : (key, v) ∈ xs := by
  obtain ⟨before, after, rfl, -⟩ := List.lookup_eq_some_iff.mp h
  exact List.mem_append_right _ (.head _)

theorem AreSound.nil {E : Reckoning} {σ : Shapes} : AreSound E σ [] := fun _ hi => nomatch hi

theorem AreBound.nil {E : Reckoning} {σ : Shapes} : AreBound E σ [] := fun _ hx => nomatch hx

section Grows

variable {E : Reckoning} {σ τ : Shapes} {item : Item} {items : List Item}

theorem Item.IsSound.grows (h : item.IsSound E σ) (hgrows : σ.Grows τ) : item.IsSound E τ := by
  induction h with
  | undefined strict => exact .undefined strict
  | null => exact .null
  | bool b => exact .bool b
  | int h => exact .int h
  | float x => exact .float x
  | text safe s => exact .text safe s
  | bytes b => exact .bytes b
  | date h => exact .date h
  | moment h => exact .moment h
  | tuple isGroup _ ih => exact .tuple isGroup ih
  | builtin f => exact .builtin f
  | method self name => exact .method self name
  | self name h => exact .self name (hgrows.settled h rfl)
  | block name depth context => exact .block name depth context
  | value h => exact .value (hgrows.settled h rfl)
  | loop h hlong => exact .loop (hgrows.settled h rfl) hlong

theorem AreSound.grows (h : AreSound E σ items) (hgrows : σ.Grows τ) : AreSound E τ items :=
  fun i hi => (h i hi).grows hgrows

theorem AreBound.grows {names : List (Text × Item)} (h : AreBound E σ names)
    (hgrows : σ.Grows τ) : AreBound E τ names :=
  fun x hx => (h x hx).grows hgrows

theorem AreEntries.grows {es : List (Item × Item)} (h : AreEntries E σ es) (hgrows : σ.Grows τ) :
    AreEntries E τ es :=
  fun e he => ⟨(h e he).1.grows hgrows, (h e he).2.grows hgrows⟩

end Grows

theorem le_tenTo (k : Nat) : 1000 ≤ Decimal.tenTo (k + 3) := by
  have hpos : 0 < Decimal.tenTo k := Nat.pow_pos (by decide)
  simp only [Decimal.tenTo_succ]
  omega

/-- A whole number of a few digits can be written. -/
theorem areWritable_of_lt {E : Reckoning} {n : Int} (h : n.natAbs < 1000) : AreWritable E [n] := by
  have hmost : 1000 ≤ Decimal.tenTo Item.mostDigits := le_tenTo 4297
  intro m hm hlong
  obtain rfl := List.mem_singleton.mp hm
  have hle : Decimal.tenTo Item.mostDigits ≤ m.natAbs := of_decide_eq_true hlong
  omega

/-! ### Cells -/

/-- A place at which the shapes know the scopes. -/
structure Place.IsSound (σ : Shapes) (p : Place) : Prop where
  scopes : ∀ a ∈ p.scopes, ∃ names, σ a = some (.frame names)
  context : σ p.context = some .context
  base : σ p.base = some .base

/-- The test of a loop that can be made. -/
structure IsSoundTest (E : Reckoning) (σ : Shapes) (test : Target × Expr × Place) : Prop where
  place : test.2.2.IsSound σ
  target : E.hasAll test.1.risks
  expr : E.hasAll test.2.1.risks

/-- A loop over sound items. -/
structure LoopState.IsSound (E : Reckoning) (σ : Shapes) (l : LoopState) : Prop where
  pending : AreSound E σ l.source.pending
  failure : l.source.failure = none
  test : ∀ test ∈ l.source.test, IsSoundTest E σ test
  previous : ∀ i ∈ l.previous, i.IsSound E σ
  current : l.current.IsSound E σ
  ahead : ∀ i ∈ l.ahead, i.IsSound E σ

/-- The values of a scope are sound. -/
def Frame.IsSound (E : Reckoning) (σ : Shapes) (f : Frame) : Prop :=
  ∀ x ∈ f.values, ∀ i ∈ x.2, i.IsSound E σ

/-- The names of a scope. -/
def Frame.names (f : Frame) : List Text := f.values.map (·.1)

/-- A cell is of a shape. -/
inductive Cell.Fits (E : Reckoning) (σ : Shapes) : Shape → Cell → Prop
  | list {items : List Item} : AreSound E σ items → Fits E σ .value (.list items)
  | set {items : List Item} : AreSound E σ items → Fits E σ .value (.set items)
  | map {es : List (Item × Item)} : AreEntries E σ es → Fits E σ .value (.map es)
  | routine (r : Routine) : Fits E σ .value (.routine r)
  | loop {l : LoopState} : l.IsSound E σ → Fits E σ .loop (.loop l)
  | context {c : Context} : AreBound E σ c.all → Fits E σ .context (.context c)
  | base (isKnown : Bool) : Fits E σ .base (.base isKnown)
  | frame {f : Frame} : f.IsSound E σ → Fits E σ (.frame f.names) (.frame f)
  | reserved (names : List Text) (c : Cell) : Fits E σ (.reserved names) c

/-- The cells are as their shapes tell. -/
def Shapes.Describes (E : Reckoning) (σ : Shapes) (cells : Array Cell) : Prop :=
  ∀ a shape, σ a = some shape → ∃ c, cells[a]? = some c ∧ c.Fits E σ shape

section Grows

variable {E : Reckoning} {σ τ : Shapes}

theorem Place.IsSound.grows {p : Place} (h : p.IsSound σ) (hgrows : σ.Grows τ) :
    p.IsSound τ where
  scopes a ha := (h.scopes a ha).imp fun _ hnames => hgrows.settled hnames rfl
  context := hgrows.settled h.context rfl
  base := hgrows.settled h.base rfl

theorem IsSoundTest.grows {test : Target × Expr × Place} (h : IsSoundTest E σ test)
    (hgrows : σ.Grows τ) : IsSoundTest E τ test :=
  ⟨h.place.grows hgrows, h.target, h.expr⟩

theorem LoopState.IsSound.grows {l : LoopState} (h : l.IsSound E σ) (hgrows : σ.Grows τ) :
    l.IsSound E τ where
  pending := h.pending.grows hgrows
  failure := h.failure
  test test htest := (h.test test htest).grows hgrows
  previous i hi := (h.previous i hi).grows hgrows
  current := h.current.grows hgrows
  ahead i hi := (h.ahead i hi).grows hgrows

theorem Cell.Fits.grows {c : Cell} {shape : Shape} (h : c.Fits E σ shape) (hgrows : σ.Grows τ) :
    c.Fits E τ shape := by
  cases h with
  | list h => exact .list (h.grows hgrows)
  | set h => exact .set (h.grows hgrows)
  | map h => exact .map (h.grows hgrows)
  | routine r => exact .routine r
  | loop h => exact .loop (h.grows hgrows)
  | context h => exact .context (h.grows hgrows)
  | base isKnown => exact .base isKnown
  | frame h => exact .frame fun x hx i hi => (h x hx i hi).grows hgrows
  | reserved names c => exact .reserved names c

end Grows

namespace Shapes.Describes

variable {E : Reckoning} {σ : Shapes} {cells : Array Cell} {a : Address} {c : Cell} {shape : Shape}

theorem lt_size (h : σ.Describes E cells) (ha : σ a = some shape) : a < cells.size := by
  obtain ⟨c, hc, -⟩ := h a shape ha
  exact (Array.getElem?_eq_some_iff.mp hc).1

/-- A new cell. -/
theorem push (h : σ.Describes E cells) (hc : c.Fits E σ shape) :
    σ.Grows (σ.put cells.size shape) ∧ (σ.put cells.size shape).Describes E (cells.push c) := by
  have hnone : σ cells.size = none := by
    cases hsize : σ cells.size with
    | none => rfl
    | some shape => exact absurd (h.lt_size hsize) (Nat.lt_irrefl _)
  have hgrows : σ.Grows (σ.put cells.size shape) := grows_put_of_none hnone
  refine ⟨hgrows, fun b shape' hb => ?_⟩
  by_cases heq : b = cells.size
  · subst heq
    obtain rfl := Option.some.inj ((put_self ..).symm.trans hb)
    exact ⟨c, Array.getElem?_push_size, hc.grows hgrows⟩
  · rw [put_of_ne heq] at hb
    obtain ⟨c', hc', hfits⟩ := h b shape' hb
    exact ⟨c', by rw [Array.getElem?_push, if_neg heq, hc'], hfits.grows hgrows⟩

/-- A cell of the same shape in the place of another one, or in a place that was reserved for it. -/
theorem set {τ : Shapes} (h : σ.Describes E cells) (hgrows : σ.Grows τ) (hlt : a < cells.size)
    (hothers : ∀ b, b ≠ a → τ b = σ b) (ha : τ a = some shape) (hc : c.Fits E τ shape) :
    τ.Describes E (cells.setIfInBounds a c) := by
  intro b shape' hb
  by_cases heq : b = a
  · subst heq
    obtain rfl := Option.some.inj (ha.symm.trans hb)
    exact ⟨c, by simp [hlt], hc⟩
  · rw [hothers b heq] at hb
    obtain ⟨c', hc', hfits⟩ := h b shape' hb
    exact ⟨c', by rw [Array.getElem?_setIfInBounds_ne (Ne.symm heq), hc'], hfits.grows hgrows⟩

end Shapes.Describes

/-! ### Steps -/

/-- The cells are as their shapes tell, those that there were and the further ones, and the result
has a property; or there is a fault that is reckoned with. -/
def IsOutcome {α : Type} (E : Reckoning) (σ : Shapes) (good : Shapes → α → Prop) :
    EStateM.Result Fault State α → Prop
  | .ok a s => ∃ τ, σ.Grows τ ∧ τ.Describes E s.cells ∧ good τ a
  | .error f _ => E.has f

/-- A step that keeps the shapes of the cells, and ends with no other faults than those that are
reckoned with. -/
def Abides {α : Type} (E : Reckoning) (σ : Shapes) (good : Shapes → α → Prop) (m : Work α) : Prop :=
  ∀ s, σ.Describes E s.cells → IsOutcome E σ good (m s)

namespace Abides

variable {α β : Type} {E : Reckoning} {σ τ : Shapes} {good better : Shapes → α → Prop}
  {good' : Shapes → β → Prop} {m m' : Work α} {f : α → Work β}

theorem pure {a : α} (h : good σ a) : Abides E σ good (Pure.pure a) :=
  fun _ hs => ⟨σ, .refl σ, hs, h⟩

theorem throw {fault : Fault} (h : E.has fault) : Abides E σ good (throw fault : Work α) :=
  fun _ _ => h

theorem bind (hm : Abides E σ good m)
    (hf : ∀ τ a, σ.Grows τ → good τ a → Abides E τ good' (f a)) :
    Abides E σ good' (m >>= f) := by
  intro s hs
  have hms := hm s hs
  simp only [Bind.bind, EStateM.bind]
  cases hrun : m s with
  | error fault s' =>
    rw [hrun] at hms
    exact hms
  | ok a s' =>
    rw [hrun] at hms
    obtain ⟨τ, hgrows, hs', ha⟩ := hms
    have hfs := hf τ a hgrows ha s' hs'
    dsimp only
    cases hrun' : f a s' with
    | error fault s'' =>
      rw [hrun'] at hfs
      exact hfs
    | ok b s'' =>
      rw [hrun'] at hfs
      obtain ⟨υ, hgrows', hs'', hb⟩ := hfs
      exact ⟨υ, hgrows.trans hgrows', hs'', hb⟩

theorem mono (hm : Abides E σ better m) (h : ∀ τ a, σ.Grows τ → better τ a → good τ a) :
    Abides E σ good m := by
  intro s hs
  have hms := hm s hs
  cases hrun : m s with
  | error fault s' =>
    rw [hrun] at hms
    exact hms
  | ok a s' =>
    rw [hrun] at hms
    obtain ⟨τ, hgrows, hs', ha⟩ := hms
    exact ⟨τ, hgrows, hs', h τ a hgrows ha⟩

theorem map {g : α → β} (hm : Abides E σ good m)
    (hg : ∀ τ a, σ.Grows τ → good τ a → good' τ (g a)) : Abides E σ good' (g <$> m) := by
  rw [← bind_pure_comp]
  exact hm.bind fun τ a hgrows ha => pure (hg τ a hgrows ha)

theorem ite {c : Prop} [Decidable c] (h : c → Abides E σ good m) (h' : ¬c → Abides E σ good m') :
    Abides E σ good (if c then m else m') := by
  split
  · exact h ‹_›
  · exact h' ‹_›

/-- A condition that ends in a fault, and what is done otherwise. -/
theorem guard {c : Prop} [Decidable c] {fault : Fault} {step : PUnit → Work α}
    (hfault : E.has fault) (h : ¬c → Abides E σ good (step ⟨⟩)) :
    Abides E σ good (if c then MonadExcept.throw fault >>= step else step ⟨⟩) := by
  split
  · exact fun _ _ => hfault
  · exact h ‹_›

end Abides

/-- A step that keeps the shapes, and adds none. -/
abbrev Looks {α : Type} (E : Reckoning) (σ : Shapes) (good : α → Prop) (m : Work α) : Prop :=
  Abides E σ (fun τ a => τ = σ ∧ good a) m

namespace Looks

variable {α β : Type} {E : Reckoning} {σ : Shapes} {good better : α → Prop} {good' : β → Prop}
  {m : Work α} {f : α → Work β}

theorem pure {a : α} (h : good a) : Looks E σ good (Pure.pure a) := Abides.pure ⟨rfl, h⟩

/-- What follows a step that adds no shapes begins with the same ones. -/
theorem seq {result : Shapes → β → Prop} (hm : Looks E σ good m)
    (hf : ∀ a, good a → Abides E σ result (f a)) : Abides E σ result (m >>= f) := by
  refine Abides.bind hm ?_
  rintro τ a - ⟨rfl, ha⟩
  exact hf a ha

theorem abides {result : Shapes → α → Prop} (hm : Looks E σ good m)
    (h : ∀ a, good a → result σ a) : Abides E σ result m := by
  refine Abides.mono hm ?_
  rintro τ a - ⟨rfl, ha⟩
  exact h a ha

theorem mono (hm : Looks E σ better m) (h : ∀ a, better a → good a) : Looks E σ good m :=
  hm.abides fun a ha => ⟨rfl, h a ha⟩

/-! ### Cells -/

theorem heap : Looks E σ (fun cells => σ.Describes E cells) heap :=
  fun _ hs => ⟨σ, .refl σ, hs, rfl, hs⟩

theorem lift {r : Except Fault α} (h : Gives good E.has r) : Looks E σ good (lift r) := by
  intro s hs
  cases r with
  | error fault => exact h
  | ok a => exact ⟨σ, .refl σ, hs, rfl, h⟩

/-- An answer that is known. -/
theorem lift_of_eq {r : Except Fault α} {a : α} (h : r = .ok a) :
    Looks E σ (fun b => b = a) (Template.lift r) :=
  lift (by rw [h]; rfl)

/-- An answer that is found by looking at the cells. -/
theorem heap_lift {r : Array Cell → Except Fault α}
    (h : ∀ cells, σ.Describes E cells → Gives good E.has (r cells)) :
    Looks E σ good (do Template.lift (r (← Template.heap))) :=
  heap.seq fun cells hd => lift (h cells hd)

theorem cellAt {a : Address} {shape : Shape} (ha : σ a = some shape) :
    Looks E σ (fun c => c.Fits E σ shape) (cellAt a) := by
  intro s hs
  obtain ⟨c, hc, hfits⟩ := hs a shape ha
  rw [Template.cellAt, hc]
  exact ⟨σ, .refl σ, hs, rfl, hfits⟩

theorem setCell {a : Address} {c : Cell} {shape : Shape} (ha : σ a = some shape)
    (hc : c.Fits E σ shape) : Looks E σ (fun _ => True) (setCell a c) :=
  fun _ hs => ⟨σ, .refl σ, hs.set (.refl σ) (hs.lt_size ha) (fun _ _ => rfl) ha hc, rfl, trivial⟩

theorem put (s : Text) : Looks E σ (fun _ => True) (put s) :=
  fun _ hs => ⟨σ, .refl σ, hs, rfl, trivial⟩

theorem mapM {xs : List α} (h : ∀ x ∈ xs, Looks E σ good' (f x)) :
    Looks E σ (fun bs => ∀ b ∈ bs, good' b) (xs.mapM f) := by
  induction xs with
  | nil => exact pure fun _ hb => nomatch hb
  | cons x xs ih =>
    rw [List.forall_mem_cons] at h
    rw [List.mapM_cons]
    exact h.1.seq fun b hb => (ih h.2).seq fun bs hbs => pure (List.forall_mem_cons.mpr ⟨hb, hbs⟩)

end Looks

namespace Abides

variable {α : Type} {E : Reckoning} {σ : Shapes}

theorem allocate {c : Cell} {shape : Shape} (hc : c.Fits E σ shape) :
    Abides E σ (fun τ a => τ a = some shape) (allocate c) := by
  intro s hs
  obtain ⟨hgrows, hdescribes⟩ := hs.push hc
  exact ⟨_, hgrows, hdescribes, Shapes.put_self ..⟩

theorem refTo {c : Cell} (hc : c.Fits E σ .value) :
    Abides E σ (fun τ i => i.IsSound E τ) (refTo c) :=
  (allocate hc).bind fun _ _ _ ha => pure (.value ha)

/-- The scope that a place was reserved for is made, or made again. -/
theorem setFrame {a : Address} {f : Frame}
    (ha : σ a = some (.reserved f.names) ∨ σ a = some (.frame f.names)) (hf : f.IsSound E σ) :
    Abides E σ (fun τ _ => τ a = some (.frame f.names)) (setCell a (.frame f)) := by
  rcases ha with ha | ha
  · intro s hs
    have hgrows : σ.Grows (σ.put a (.frame f.names)) := Shapes.grows_put_of_reserved ha
    exact ⟨_, hgrows, hs.set hgrows (hs.lt_size ha) (fun b hb => Shapes.put_of_ne hb)
      (Shapes.put_self ..) (Cell.Fits.frame hf |>.grows hgrows), Shapes.put_self ..⟩
  · exact (Looks.setCell ha (.frame hf)).abides fun _ _ => ha

/-! ### Output -/

theorem captured {step : Work Unit} (h : Abides E σ (fun _ _ => True) step) :
    Abides E σ (fun _ _ => True) (captured step) := by
  intro s hs
  have hstep := h { s with out := [] } hs
  unfold Template.captured
  cases hrun : step { s with out := [] } with
  | error fault s' =>
    rw [hrun] at hstep
    exact hstep
  | ok _ s' =>
    rw [hrun] at hstep
    exact hstep

end Abides

end Template

end Scaffold
