import Scaffold.Proofs.Template.Place

/-!
# Loops over sound items

A loop that goes over sound items hands out sound ones, however it is asked: turn by turn, for the
item to come, or for the number of turns that there are. Its turns may do what they like as long as
each of them abides by the shapes.

What carries out the tests of loops is an engine; of that one it is said here that the expressions
it evaluates come to nothing but what they risk.

## Main definitions

* `Template.Engine.IsSound` — an engine whose expressions come to nothing but what they risk
-/

namespace Scaffold

namespace Template

variable {E : Reckoning} {σ : Shapes} {eng : Engine} {a : Address} {item : Item}
  {items : List Item}

/-- An engine whose expressions come to nothing but what they risk. -/
def Engine.IsSound (E : Reckoning) (eng : Engine) : Prop :=
  ∀ {σ : Shapes} {p : Place} {e : Expr}, p.Bears E σ e.names [] e.risks →
    Abides E σ (fun τ i => i.IsSound E τ) (eng.eval p e)

/-- A test that can be made, or none. -/
abbrev IsSoundTestIfAny (E : Reckoning) (σ : Shapes) (test : Option (Target × Expr × Place)) :
    Prop :=
  ∀ t ∈ test, IsSoundTest E σ t

namespace Looks

theorem loopAt (ha : σ a = some .loop) : Looks E σ (fun l => l.IsSound E σ) (loopAt a) :=
  (cellAt ha).seq fun c hc => by
    cases hc
    exact pure ‹_›

end Looks

namespace Abides

variable {test : Option (Target × Expr × Place)}

theorem passes (heng : eng.IsSound E) (htest : IsSoundTestIfAny E σ test)
    (hitem : item.IsSound E σ) : Abides E σ (fun _ _ => True) (passes eng test item) := by
  cases test with
  | none => exact pure trivial
  | some t =>
    obtain ⟨target, e, p⟩ := t
    obtain ⟨hp, htarget, hexpr⟩ := htest _ rfl
    refine (enter hp .nil Scope.covers_ofLoopTest hexpr).bind fun τ q hτ hq => ?_
    refine (Looks.bindTarget hq.place (hitem.grows hτ) target hq.binds htarget).seq fun _ _ => ?_
    refine (heng (hq.less (fun _ h => h) (List.nil_subset _) fun _ h => h)).bind fun υ i _ hi => ?_
    exact (Looks.isTrue hi).abides fun _ _ => trivial

/-- The first item that passes is one of those that there are, and so are the items behind it. -/
theorem firstPassing (heng : eng.IsSound E) (htest : IsSoundTestIfAny E σ test)
    (hitems : AreSound E σ items) :
    Abides E σ (fun τ r => Item.IsSoundIfAny E τ r.1 ∧ AreSound E τ r.2)
      (firstPassing eng test none items) := by
  induction items generalizing σ with
  | nil => exact pure ⟨.none, fun _ hi => nomatch hi⟩
  | cons item items ih =>
    obtain ⟨hitem, hitems⟩ := List.forall_mem_cons.mp hitems
    refine (passes heng htest hitem).bind fun τ isPassing hτ _ => ?_
    split
    · exact pure ⟨.some (hitem.grows hτ), AreSound.grows hitems hτ⟩
    · exact ih (fun t ht => (htest t ht).grows hτ) (AreSound.grows hitems hτ)

theorem peek (heng : eng.IsSound E) (ha : σ a = some .loop) :
    Abides E σ (fun τ found => Item.IsSoundIfAny E τ found) (peek eng a) := by
  refine (Looks.loopAt ha).seq fun l hl => ?_
  split
  · next item hahead => exact pure (.some (hl.ahead item hahead))
  · rw [hl.failure]
    refine (firstPassing heng hl.test hl.pending).bind fun τ r hτ hr => ?_
    have hl' := hl.grows hτ
    refine (Looks.setCell (hτ.settled ha rfl) (.loop ?_)).seq fun _ _ => pure hr.1
    exact { hl' with pending := hr.2, ahead := hr.1 }

/-- The item of the next turn is sound. -/
theorem advance (heng : eng.IsSound E) (ha : σ a = some .loop) (isFirst : Bool) :
    Abides E σ (fun τ found => Item.IsSoundIfAny E τ found) (advance eng a isFirst) := by
  refine (peek heng ha).bind fun τ found hτ hfound => ?_
  have ha := hτ.settled ha rfl
  cases found with
  | none => exact pure .none
  | some item =>
    have hitem := hfound item rfl
    refine (Looks.loopAt ha).seq fun l hl => ?_
    have hprevious : Item.IsSoundIfAny E τ (if isFirst then none else some l.current) :=
      .ite .none (.some hl.current)
    refine (Looks.setCell ha (.loop ?_)).seq fun _ _ => pure (.some hitem)
    exact { hl with previous := hprevious, current := hitem, ahead := Item.IsSoundIfAny.none }

theorem lengthOf (heng : eng.IsSound E) (ha : σ a = some .loop) :
    Abides E σ (fun _ _ => True) (lengthOf eng a) := by
  refine (Looks.loopAt ha).seq fun l hl => ?_
  split
  · exact pure trivial
  · refine (Looks.setCell ha (.loop ?_)).seq fun _ _ => pure trivial
    exact { hl with }
  · have hpassing : Abides E σ (fun _ kept => ∀ i ∈ kept, i ∈ l.source.pending)
        (l.source.pending.filterM (Template.passes eng l.source.test)) :=
      filterM fun i hi τ hτ =>
        passes heng (fun t ht => (hl.test t ht).grows hτ) ((hl.pending i hi).grows hτ)
    refine hpassing.bind fun τ kept hτ hkept => ?_
    have hl' := hl.grows hτ
    rw [hl.failure]
    refine (Looks.setCell (hτ.settled ha rfl) (.loop ?_)).seq fun _ _ => pure trivial
    exact { hl' with
      pending := fun i hi => hl'.pending i (hkept i hi)
      test := fun _ ht => nomatch ht }

/-- What a loop is asked for is sound. The number of its turns may be too long to be written. -/
theorem loopMember? (heng : eng.IsSound E) (hlong : E.has .badValue) (ha : σ a = some .loop)
    (name : Text) :
    Abides E σ (fun τ found => Item.IsSoundIfAny E τ found) (loopMember? eng a name) := by
  refine (Looks.loopAt ha).seq fun l hl => ?_
  have hnumber (f : Nat → Int) : Abides E σ (fun τ found => Item.IsSoundIfAny E τ found)
      (do return some (.int (f (← Template.lengthOf eng a)))) :=
    (lengthOf heng ha).bind fun _ _ _ _ => pure (.any hlong)
  have hgetD {τ : Shapes} {found : Option Item} (h : Item.IsSoundIfAny E τ found) :
      Item.IsSoundIfAny E τ (some (found.getD (.undefined eng.strict))) := by
    refine .some ?_
    cases found with
    | none => exact .undefined eng.strict
    | some i => exact h i rfl
  refine ite (fun _ => hnumber fun n => n) fun _ => ?_
  refine ite (fun _ => hnumber fun n => n - l.index) fun _ => ?_
  refine ite (fun _ => hnumber fun n => n - l.index - 1) fun _ => ?_
  refine ite (fun _ => (peek heng ha).bind fun _ _ _ _ => pure (.some (.bool _))) fun _ => ?_
  refine ite (fun _ => (peek heng ha).bind fun _ _ _ h => pure (hgetD h)) fun _ => ?_
  exact ite (fun _ => pure (hgetD hl.previous)) fun _ => pure .none

/-- **The turns of a loop** abide by the shapes if every one of them does. -/
theorem turns {turn : Item → Work Unit} (heng : eng.IsSound E) (ha : σ a = some .loop)
    (hturn : ∀ τ item, σ.Grows τ → item.IsSound E τ → Abides E τ (fun _ _ => True) (turn item))
    (most : Nat) (isFirst : Bool) :
    Abides E σ (fun _ _ => True) (turns eng a turn most isFirst) := by
  induction most generalizing σ isFirst with
  | zero => exact pure trivial
  | succ most ih =>
    refine (advance heng ha isFirst).bind fun τ found hτ hfound => ?_
    cases found with
    | none => exact pure trivial
    | some item =>
      refine (hturn τ item hτ (hfound item rfl)).bind fun υ _ hυ _ => ?_
      have hgrows := hτ.trans hυ
      exact ih (hgrows.settled ha rfl)
        (fun υ' item hυ' hitem => hturn υ' item (hgrows.trans hυ') hitem) false

end Abides

end Template

end Scaffold
