import Scaffold.Text.Basic

/-!
# Steps that keep an invariant

The readers of this library are steps on a state that may end with a fault. What is said of all of
them here is of one kind: an invariant of the state is kept, and a fault is one of those that are
expected. Such a statement passes from the parts of a step to the whole of it, whatever the parts
give to each other, so that one statement for each of the readers is enough.

`Keeps` is a class. Its instances follow the forms that a step can have, down to the readers that it
calls, which have instances of their own; what is left to say are the places where a `match` tells
values apart, and where the state is replaced.

## Main definitions

* `Gives` — a result with a property, or with an expected fault
* `Keeps` — a step that gives a state with a property for one with it, or an expected fault
-/

namespace Scaffold

variable {σ ε α β : Type} {inv : σ → Prop} {expected likely : ε → Prop} {good : α → Prop}
  {good' : β → Prop}

/-- A result with a property, or an expected fault. -/
def Gives (good : α → Prop) (expected : ε → Prop) : Except ε α → Prop
  | .ok a => good a
  | .error e => expected e

/-- A result of which nothing is said unless it is a fault, and then an expected one. -/
abbrev FailsAs (expected : ε → Prop) (r : Except ε α) : Prop := Gives (fun _ => True) expected r

/-- A step that keeps an invariant of the state, and ends with no other faults than the expected
ones. -/
class Keeps (inv : σ → Prop) (expected : ε → Prop) (m : StateT σ (Except ε) α) : Prop where
  gives : ∀ s, inv s → Gives (fun r => inv r.2) expected (m.run s)

/-! ### Results -/

namespace Gives

variable {r : Except ε α} {f : α → Except ε β}

theorem error {e : ε} (hr : Gives good expected r) (h : r = .error e) : expected e := by
  rwa [h] at hr

theorem ok {a : α} (hr : Gives good expected r) (h : r = .ok a) : good a := by
  rwa [h] at hr

theorem mono {better : α → Prop} (hr : Gives better expected r) (hgood : ∀ a, better a → good a)
    (hfault : ∀ e, expected e → likely e) : Gives good likely r := by
  cases r with
  | error e => exact hfault e hr
  | ok a => exact hgood a hr

theorem bind (hr : Gives good expected r) (hf : ∀ a, good a → Gives good' expected (f a)) :
    Gives good' expected (r >>= f) := by
  cases r with
  | error e => exact hr
  | ok a => exact hf a hr

/-- The same where it matters which result the next step goes on with. -/
theorem seq (hr : FailsAs expected r) (hf : ∀ a, r = .ok a → Gives good' expected (f a)) :
    Gives good' expected (r >>= f) := by
  cases r with
  | error e => exact hr
  | ok a => exact hf a rfl

theorem map {g : α → β} (hr : Gives good expected r) (hg : ∀ a, good a → good' (g a)) :
    Gives good' expected (r.map g) := by
  cases r with
  | error e => exact hr
  | ok a => exact hg a hr

theorem mapError {ε' : Type} {reported : ε' → Prop} {report : ε → ε'}
    (hr : Gives good expected r) (hreport : ∀ e, expected e → reported (report e)) :
    Gives good reported (r.mapError report) := by
  cases r with
  | error e => exact hreport e hr
  | ok a => exact hr

theorem mapM (good' : β → Prop) {xs : List α} (hf : ∀ a ∈ xs, Gives good' expected (f a)) :
    Gives (fun bs => ∀ b ∈ bs, good' b) expected (xs.mapM f) := by
  induction xs with
  | nil => exact fun _ hb => nomatch hb
  | cons x xs ih =>
    rw [List.forall_mem_cons] at hf
    rw [List.mapM_cons]
    exact hf.1.bind fun b hb => (ih hf.2).bind fun bs hbs => List.forall_mem_cons.mpr ⟨hb, hbs⟩

theorem foldlM (good' : β → Prop) {step : β → α → Except ε β} {xs : List α} {b : β} (hb : good' b)
    (hstep : ∀ b, good' b → ∀ a ∈ xs, Gives good' expected (step b a)) :
    Gives good' expected (xs.foldlM step b) := by
  induction xs generalizing b with
  | nil => exact hb
  | cons x xs ih =>
    rw [List.foldlM_cons]
    exact (hstep b hb x List.mem_cons_self).bind fun b' hb' =>
      ih hb' fun b hb a ha => hstep b hb a (List.mem_cons_of_mem x ha)

end Gives

/-! ### Steps -/

theorem run_get_bind (f : σ → StateT σ (Except ε) α) (s : σ) :
    (get >>= f).run s = (f s).run s := rfl

theorem run_bind_of_ok {m : StateT σ (Except ε) α} {f : α → StateT σ (Except ε) β} {a : α}
    {s s' : σ}
    (h : m.run s = .ok (a, s')) : (m >>= f).run s = (f a).run s' := by
  rw [StateT.run_bind, h]
  rfl

theorem exists_of_run_bind {m : StateT σ (Except ε) α} {f : α → StateT σ (Except ε) β} {b : β}
    {s s'' : σ} (h : (m >>= f).run s = .ok (b, s'')) :
    ∃ a s', m.run s = .ok (a, s') ∧ (f a).run s' = .ok (b, s'') := by
  rw [StateT.run_bind] at h
  cases hrun : m.run s with
  | error e =>
    rw [hrun] at h
    exact nomatch h
  | ok r =>
    rw [hrun] at h
    exact ⟨r.1, r.2, rfl, h⟩

/-- A choice between two steps, where the state that they begin at is known. -/
theorem Gives.run_ite {c : Prop} [Decidable c] {m m' : StateT σ (Except ε) α} {s : σ}
    {good : α × σ → Prop} (h : c → Gives good expected (m.run s))
    (h' : ¬c → Gives good expected (m'.run s)) :
    Gives good expected ((if c then m else m').run s) := by
  split
  · exact h ‹_›
  · exact h' ‹_›

namespace Keeps

variable {m m' : StateT σ (Except ε) α} {f : α → StateT σ (Except ε) β}

theorem seq (hm : Keeps inv expected m) (hf : ∀ a, Keeps inv expected (f a)) :
    Keeps inv expected (m >>= f) :=
  ⟨fun s hs => (hm.gives s hs).bind fun r hr => (hf r.1).gives r.2 hr⟩

instance pure (a : α) : Keeps inv expected (Pure.pure a : StateT σ (Except ε) α) :=
  ⟨fun _ hs => hs⟩

instance bind [hm : Keeps inv expected m] [hf : ∀ a, Keeps inv expected (f a)] :
    Keeps inv expected (m >>= f) :=
  hm.seq hf

instance map {g : α → β} [Keeps inv expected m] : Keeps inv expected (g <$> m) := by
  rw [← bind_pure_comp]
  infer_instance

instance ite {c : Prop} [Decidable c] [Keeps inv expected m] [Keeps inv expected m'] :
    Keeps inv expected (if c then m else m') := by
  split <;> assumption

instance get : Keeps inv expected (MonadState.get : StateT σ (Except ε) σ) := ⟨fun _ hs => hs⟩

/-- What is read of the state has the invariant. -/
theorem get_bind {f : σ → StateT σ (Except ε) β} (hf : ∀ s, inv s → Keeps inv expected (f s)) :
    Keeps inv expected (MonadState.get >>= f) :=
  ⟨fun s hs => (hf s hs).gives s hs⟩

theorem set {s : σ} (hs : inv s) :
    Keeps inv expected (MonadStateOf.set s : StateT σ (Except ε) PUnit) :=
  ⟨fun _ _ => hs⟩

theorem modify {g : σ → σ} (hg : ∀ s, inv s → inv (g s)) :
    Keeps inv expected (modify g : StateT σ (Except ε) PUnit) :=
  ⟨hg⟩

theorem throw {e : ε} (he : expected e) :
    Keeps inv expected (throw e : StateT σ (Except ε) α) :=
  ⟨fun _ _ => he⟩

/-- Where every fault is expected, only the states are told of. -/
theorem weaken [hm : Keeps inv expected m] : Keeps inv (fun _ => True) m :=
  ⟨fun s hs => (hm.gives s hs).mono (fun _ h => h) fun _ _ => trivial⟩

instance throw_any (e : ε) :
    Keeps inv (fun _ => True) (MonadExcept.throw e : StateT σ (Except ε) α) :=
  throw trivial

/-- A state of which nothing is said may be replaced by any. -/
instance set_any (s : σ) :
    Keeps (fun _ => True) expected (MonadStateOf.set s : StateT σ (Except ε) PUnit) :=
  set trivial

end Keeps

end Scaffold
