import Mathlib.Data.List.Forall2
import Scaffold.Proofs.Template.Missing.Evaluate
import Scaffold.Proofs.Template.Missing.Reference

/-!
# Looking templates up

What a reference leads to can be told from its expression. A constant names the template that it
is, and a choice one that either side names. A list or a tuple offers several, of which the first
one there is gets included, so one of them that is there is enough. Of all other expressions nothing
is known before they are evaluated: they may name every template, and one that is missing.

## Main definitions

* `Template.Engine.IsServing` — an engine that finds templates under the names that pass a test
* `Template.IsLookedUp` — what is looked up for an expression

## Main results

* `Template.Supplies.lookUpOne` — the template that an expression names
* `Template.Supplies.lookUp` — the template that it offers, or names
-/

namespace Scaffold

namespace Template

open Item

variable {find : Text → Except Fault Template} {has : Text → Bool} {ok : List Stmt → Prop}
  {eng : Engine} {p : Place} {held : Item}

/-- An engine that finds templates under the names that pass a test. -/
structure Engine.IsServing (find : Text → Except Fault Template) (has : Text → Bool)
    (eng : Engine) : Prop extends eng.IsSupplied (Stmt.AreServed find has) where
  find_eq : eng.find = find
  found {name : Text} (h : has name = true) :
    FailsAs (fun f => f ≠ .missingTemplate ∧ f ≠ .undefined) (find name)
  blocks {name : Text} {t : Template} (h : find name = .ok t) : ∀ x ∈ t.blocks,
    ∀ ref ∈ Stmt.referencesOfAll x.2.body, ref ∈ Stmt.referencesOfAll t.body

/-! ### Names of templates -/

/-- What is found is a template, under the name that an item is. -/
structure IsFoundBy (find : Text → Except Fault Template) (item : Item) (found : Text × Template) :
    Prop where
  isName : ∃ safe, item = .text safe found.1
  find_eq : find found.1 = .ok found.2

/-- An item is the name of a template that is there. -/
def IsNameIn (has : Text → Bool) (item : Item) : Prop :=
  ∃ safe name, item = .text safe name ∧ has name = true

/-- Where nothing is found under an item, it is not the name of a template that is there. -/
def Misses (has : Text → Bool) (item : Item) (f : Fault) : Prop :=
  f = .missingTemplate ∨ f = .undefined → ¬IsNameIn has item

theorem Expr.mayName_of_mayOffer {name : Text} {e : Expr} (h : e.mayOffer name = true) :
    e.mayName name = true := by
  cases e with
  | string s => exact h
  | _ => rfl

/-- An item that an expression may stand for, as far as names of templates go. -/
structure StandsFor (has : Text → Bool) (e : Expr) (item : Item) : Prop where
  isNameIn : e.isNameIn has = true → IsNameIn has item
  mayOffer : ∀ safe name, item = .text safe name → e.mayOffer name = true

theorem StandsFor.of_any {e : Expr} (hname : e.isNameIn has = false)
    (h : ∀ name, e.mayOffer name = true) (item : Item) : StandsFor has e item :=
  ⟨by simp [hname], fun _ name _ => h name⟩

/-- What is no text is not named by anything. -/
theorem StandsFor.of_ne_text {e : Expr} {item : Item} (hname : e.isNameIn has = false)
    (h : ∀ safe name, item ≠ .text safe name) : StandsFor has e item :=
  ⟨by simp [hname], fun safe name hitem => absurd hitem (h safe name)⟩

section Choice

variable {test : Expr} {item : Item}

theorem StandsFor.yes {yes : Expr} (h : StandsFor has yes item) (no : Option Expr) :
    StandsFor has (.choice test yes no) item := by
  refine ⟨fun hname => h.isNameIn ?_, fun safe name hitem => ?_⟩
  · cases no with
    | none => cases hname
    | some no => exact (Bool.and_eq_true_iff.mp hname).1
  · have hyes := h.mayOffer safe name hitem
    cases no with
    | none => exact hyes
    | some no => exact Bool.or_eq_true_iff.mpr (.inl hyes)

theorem StandsFor.no {yes no : Expr} (h : StandsFor has no item) :
    StandsFor has (.choice test yes (some no)) item :=
  ⟨fun hname => h.isNameIn (Bool.and_eq_true_iff.mp hname).2,
    fun safe name hitem => Bool.or_eq_true_iff.mpr (.inr (h.mayOffer safe name hitem))⟩

end Choice

namespace Supplies

/-- A change to something else leaves the cells as they are. -/
theorem modify {f : State → State} {expected : Fault → Prop} (h : ∀ s, (f s).cells = s.cells) :
    Supplies ok (fun _ => True) expected (modify f : Work PUnit) := by
  intro s hs
  refine ⟨?_, trivial⟩
  rw [h]
  exact hs

/-- What is looked up under an item is a template with the name that the item is. -/
theorem templateNamed (heng : eng.IsServing find has) (item : Item) :
    Supplies ok (IsFoundBy find item) (Misses has item) (templateNamed eng item) := by
  unfold Template.templateNamed
  split
  · next safe name =>
    rw [heng.find_eq]
    have hfound :
        Gives (fun t => find name = .ok t) (Misses has (.text safe name)) (find name) := by
      cases hfind : find name with
      | ok t => rfl
      | error f =>
        rintro hf ⟨_, _, ⟨⟩, hname⟩
        have hother := (heng.found hname).error hfind
        exact hf.elim hother.1 hother.2
    refine bind (lift hfound) fun t ht => bind (modify fun _ => rfl) fun _ _ => ?_
    exact pure ⟨⟨safe, rfl⟩, ht⟩
  · next hitem =>
    have hnot (f : Fault) : Misses has item f := by
      rintro - ⟨safe, name, rfl, -⟩
      exact hitem safe name rfl
    have hcheck (cells : Array Cell) : FailsAs (Misses has item) (item.checkKey cells) := by
      cases item.checkKey cells with
      | ok => trivial
      | error f => exact hnot f
    split
    · exact throw_bind (hnot _)
    · exact bind heap fun cells _ => bind (lift (hcheck cells)) fun _ _ => throw (hnot _)

/-! ### Names that are told by the trees -/

/-- What follows on either side of a choice follows on the choice. -/
theorem choice_bind {β : Type} {good : β → Prop} {k : Item → Work β} {test yes : Expr}
    {no : Option Expr} (heng : eng.IsSupplied ok)
    (hyes : Supplies ok good NotMissing (eval eng p held yes >>= k))
    (hno : ∀ e, no = some e → Supplies ok good NotMissing (eval eng p held e >>= k))
    (hnone : no = none → Supplies ok good NotMissing (k (.undefined false))) :
    Supplies ok good NotMissing (eval eng p held (.choice test yes no) >>= k) := by
  rw [Template.eval]
  simp only [bind_assoc]
  refine (FindsAll.eval heng held test).andThen fun x => (FindsAll.isTrue x).andThen fun isSo => ?_
  split
  · exact hyes
  · cases no with
    | none =>
      rw [evalOption, pure_bind, pure_bind]
      exact hnone rfl
    | some e =>
      simpa only [evalOption, bind_pure_comp, Functor.map_map, bind_map_left, Option.getD_some]
        using hno e rfl

/-- What an expression stands for is told by the tree. -/
theorem eval_standsFor (has : Text → Bool) (heng : eng.IsSupplied ok) (e : Expr) :
    Supplies ok (StandsFor has e) NotMissing (eval eng p held e) := by
  have hany (hname : e.isNameIn has = false) (hoffer : ∀ name, e.mayOffer name = true) :
      Supplies ok (StandsFor has e) NotMissing (eval eng p held e) :=
    (FindsAll.eval heng held e).mono (fun item _ => .of_any hname hoffer item) fun _ hf => hf
  cases e with
  | string s =>
    rw [Template.eval]
    refine pure ⟨fun h => ⟨false, s, rfl, h⟩, ?_⟩
    rintro _ _ ⟨⟩
    simp [Expr.mayOffer]
  | list es =>
    rw [Template.eval]
    refine (FindsAll.evalAll heng held es).andThen fun items => ?_
    refine (FindsAll.allocate (c := .list items) trivial).andThen fun a => ?_
    exact pure (.of_ne_text rfl (by simp))
  | tuple es =>
    rw [Template.eval]
    refine (FindsAll.evalAll heng held es).andThen fun items => ?_
    exact pure (.of_ne_text rfl (by simp))
  | choice test yes no =>
    rw [← bind_pure (Template.eval eng p held _)]
    refine choice_bind heng ?_ (fun e hno => ?_) fun hno => ?_
    · exact (eval_standsFor has heng yes).bind fun item h => pure (h.yes no)
    · subst hno
      exact (eval_standsFor has heng e).bind fun item h => pure h.no
    · subst hno
      exact pure (.of_ne_text rfl (by simp))
  | _ => exact hany rfl fun _ => rfl

theorem evalAll_standsFor (has : Text → Bool) (heng : eng.IsSupplied ok) (es : List Expr) :
    Supplies ok (List.Forall₂ (StandsFor has) es) NotMissing (evalAll eng p held es) := by
  induction es with
  | nil =>
    rw [evalAll]
    exact pure .nil
  | cons e es ih =>
    rw [evalAll]
    refine (eval_standsFor has heng e).bind fun item hitem => ih.bind fun items hitems => ?_
    exact pure (.cons hitem hitems)

end Supplies

/-! ### What a reference leads to -/

/-- What is looked up is a template which an expression may offer. -/
def IsOffered (find : Text → Except Fault Template) (e : Expr) (found : Text × Template) : Prop :=
  e.mayOffer found.1 = true ∧ find found.1 = .ok found.2

section LookedUp

variable (find has)

/-- The template among some that an expression may offer, or else none that it offers is there. -/
def IsLookedUp (e : Expr) (r : Except Fault (Text × Template)) : Prop :=
  Gives (IsOffered find e) (fun f => f = .missingTemplate → e.offersNameIn has = false) r

variable {find has} {r : Except Fault (Text × Template)} {test : Expr}

theorem IsLookedUp.yes {yes : Expr} (h : IsLookedUp find has yes r) (no : Option Expr) :
    IsLookedUp find has (.choice test yes no) r := by
  refine Gives.mono h (fun found hfound => ⟨?_, hfound.2⟩) fun f hf hmissing => ?_
  · cases no with
    | none => exact hfound.1
    | some no => exact Bool.or_eq_true_iff.mpr (.inl hfound.1)
  · cases no with
    | none => rfl
    | some no => exact Bool.and_eq_false_iff.mpr (.inl (hf hmissing))

theorem IsLookedUp.no {yes no : Expr} (h : IsLookedUp find has no r) :
    IsLookedUp find has (.choice test yes (some no)) r :=
  Gives.mono h (fun _ hfound => ⟨Bool.or_eq_true_iff.mpr (.inr hfound.1), hfound.2⟩)
    fun _ hf hmissing => Bool.and_eq_false_iff.mpr (.inr (hf hmissing))

end LookedUp

theorem templateAmong_tuple (safe : Bool) (items : List Item) :
    templateAmong eng (.tuple safe items) = firstTemplate eng items := by
  cases items <;> rfl

section List

variable {s : State} {a : Address} {items : List Item}

theorem isTrue_list (h : s.cells[a]? = some (.list items)) :
    isTrue (.ref a) s = .ok (!items.isEmpty) s := by
  change lift (truth s.cells (.ref a)) s = _
  simp only [truth, h, lift]

theorem takeAll_list (h : s.cells[a]? = some (.list items)) :
    takeAll (.ref a) s = .ok items s := by
  simp only [takeAll, bind, EStateM.bind, heap, contents, h, lift, cellAt]
  rfl

theorem templateAmong_list (h : s.cells[a]? = some (.list items)) :
    templateAmong eng (.ref a) s = firstTemplate eng items s := by
  change (do
    if ← isTrue (.ref a) then firstTemplate eng (← takeAll (.ref a)) else throw .missingTemplate :
    Work (Text × Template)) s = _
  cases items with
  | nil =>
    simp only [bind, EStateM.bind, isTrue_list h]
    rfl
  | cons item items =>
    simp only [bind, EStateM.bind, isTrue_list h, List.isEmpty_cons, Bool.not_false, if_true,
      takeAll_list h]

end List

/-- The templates that a new list names are looked up in their order. What the list holds is known
only as long as nothing else is done, so this cannot be told from its item. -/
theorem newList_templateAmong (items : List Item) :
    (do let item ← newList items; attempt (templateAmong eng item)) =
      (do let _ ← newList items; attempt (firstTemplate eng items)) := by
  funext s
  have hcell : (s.cells.push (.list items))[s.cells.size]? = some (.list items) := by simp
  have hsame : templateAmong eng (.ref s.cells.size)
      { s with cells := s.cells.push (.list items) } =
        firstTemplate eng items { s with cells := s.cells.push (.list items) } :=
    templateAmong_list hcell
  change attempt _ _ = attempt _ _
  rw [attempt, attempt, hsame]

namespace Supplies

/-- What is looked up directly is what the reference may lead to. -/
theorem lookUpOne (heng : eng.IsServing find has) (e : Expr) :
    Supplies (Stmt.AreServed find has) (IsOffered find e)
      (fun f => f = .missingTemplate → e.isNameIn has = false)
      (eval eng p .null e >>= Template.templateNamed eng) := by
  have heval : Supplies (Stmt.AreServed find has) (StandsFor has e)
      (fun f => f = .missingTemplate → e.isNameIn has = false) (eval eng p .null e) :=
    (eval_standsFor has heng.toIsSupplied e).mono (fun _ h => h) fun f hf h => (hf h).elim
  refine heval.bind fun item hitem => (templateNamed heng item).mono ?_ ?_
  · rintro found ⟨⟨safe, hname⟩, hfind⟩
    exact ⟨hitem.mayOffer safe _ hname, hfind⟩
  · intro f hf hmissing
    exact Bool.eq_false_iff.mpr fun h => hf (.inl hmissing) (hitem.isNameIn h)

/-- The first of some names that there is is one that the expressions may stand for. -/
theorem firstTemplate (heng : eng.IsServing find has) {es : List Expr} {items : List Item}
    (h : List.Forall₂ (StandsFor has) es items) :
    Supplies ok (fun found => es.any (Expr.mayName found.1) = true ∧ find found.1 = .ok found.2)
      (fun f => f = .missingTemplate → es.any (Expr.isNameIn has) = false)
      (firstTemplate eng items) := by
  induction h with
  | nil => exact throw fun _ => rfl
  | @cons e item es items hitem _ ih =>
    rw [Template.firstTemplate]
    simp only [List.any_cons, Bool.or_eq_true, Bool.or_eq_false_iff]
    refine (attempt (templateNamed heng item)).bind fun r hr => ?_
    have hrest (hnot : ¬IsNameIn has item) : Supplies ok
        (fun found => (e.mayName found.1 = true ∨ es.any (Expr.mayName found.1) = true) ∧
          find found.1 = .ok found.2)
        (fun f => f = .missingTemplate →
          e.isNameIn has = false ∧ es.any (Expr.isNameIn has) = false)
        (Template.firstTemplate eng items) :=
      ih.mono (fun _ hfound => ⟨.inr hfound.1, hfound.2⟩) fun _ hf hmissing =>
        ⟨Bool.eq_false_iff.mpr fun h => hnot (hitem.isNameIn h), hf hmissing⟩
    split
    · next found =>
      obtain ⟨⟨safe, hname⟩, hfind⟩ := hr
      exact pure ⟨.inl (Expr.mayName_of_mayOffer (hitem.mayOffer safe _ hname)), hfind⟩
    · exact hrest (hr (.inl rfl))
    · exact hrest (hr (.inr rfl))
    · next hmissing _ => exact throw fun h => (hmissing h).elim

/-- Whatever is looked up is a template of its name. -/
theorem templateAmong (heng : eng.IsServing find has) (item : Item) :
    Supplies ok (fun found => find found.1 = .ok found.2) (fun _ => True)
      (templateAmong eng item) := by
  -- nothing is told about the names, so any expressions do for them that may stand for everything
  have hnames (items : List Item) :
      List.Forall₂ (StandsFor has) (items.map fun _ => .null) items := by
    rw [List.forall₂_map_left_iff, List.forall₂_same]
    exact fun item _ => .of_any rfl (fun _ => rfl) item
  have hanyFault {α : Type} {m : Work α} (h : FindsAll ok m) :
      Supplies ok (fun _ => True) (fun _ => True) m :=
    h.mono (fun _ h => h) fun _ _ => trivial
  unfold Template.templateAmong
  split
  · exact (templateNamed heng _).mono (fun _ h => h.find_eq) fun _ _ => trivial
  · refine ite (throw_bind trivial) ?_
    refine (hanyFault (FindsAll.isTrue item)).bind fun isSo _ => ite ?_ (throw trivial)
    refine (hanyFault (FindsAll.takeAll item)).bind fun items _ => ?_
    exact (firstTemplate heng (hnames items)).mono (fun _ h => h.2) fun _ _ => trivial

/-- What is looked up for an inclusion is what the reference may lead to. -/
theorem lookUp (heng : eng.IsServing find has) (e : Expr) :
    Supplies (Stmt.AreServed find has) (IsLookedUp find has e) NotMissing
      (eval eng p .null e >>= fun item => Template.attempt (Template.templateAmong eng item)) := by
  have hany (hname : e.offersNameIn has = false) (hoffer : ∀ name, e.mayOffer name = true)
      (item : Item) : Supplies (Stmt.AreServed find has) (IsLookedUp find has e) NotMissing
        (Template.attempt (Template.templateAmong eng item)) := by
    have hamong : Supplies (Stmt.AreServed find has) (IsOffered find e)
        (fun f => f = .missingTemplate → e.offersNameIn has = false)
        (Template.templateAmong eng item) :=
      (templateAmong heng item).mono (fun found hfind => ⟨hoffer found.1, hfind⟩)
        fun _ _ _ => hname
    exact attempt hamong
  cases e with
  | string s =>
    rw [Template.eval, pure_bind]
    refine attempt ((templateNamed heng (.plain s)).mono ?_ ?_)
    · rintro found ⟨⟨safe, hname⟩, hfind⟩
      cases hname
      exact ⟨by simp [Expr.mayOffer], hfind⟩
    · intro f hf hmissing
      exact Bool.eq_false_iff.mpr fun h => hf (.inl hmissing) ⟨false, s, rfl, h⟩
  | list es =>
    rw [Template.eval, bind_assoc]
    refine (evalAll_standsFor has heng.toIsSupplied es).bind fun items hitems => ?_
    rw [newList_templateAmong]
    exact (FindsAll.newList items).andThen fun _ => attempt (firstTemplate heng hitems)
  | tuple es =>
    rw [Template.eval, bind_assoc]
    refine (evalAll_standsFor has heng.toIsSupplied es).bind fun items hitems => ?_
    rw [pure_bind, templateAmong_tuple]
    exact attempt (firstTemplate heng hitems)
  | choice test yes no =>
    refine choice_bind heng.toIsSupplied ?_ (fun e hno => ?_) fun hno => ?_
    · exact (lookUp heng yes).mono (fun _ h => h.yes no) fun _ hf => hf
    · subst hno
      exact (lookUp heng e).mono (fun _ h => h.no) fun _ hf => hf
    · subst hno
      exact fun s hs => ⟨hs, fun hmissing => absurd hmissing (by decide)⟩
  | _ => exact (FindsAll.eval heng.toIsSupplied _ _).andThen (hany rfl fun _ => rfl)

end Supplies

end Template

end Scaffold
