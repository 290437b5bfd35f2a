import Scaffold.Proofs.Run.Memory

/-!
# How an injection ends

An injection ends in one of four ways. Which one is settled by the file, the guard and the
protection of the path before anything is done, and it can be told from what comes back as well. In
three of them the store and the events are as they were, down to the line ends of the file; in the
fourth there is one write and one event, and no other file is touched.

A directory is there and cannot be read, so two checks disagree about it. Either way the file that
the injection is for is missing.

## Main definitions

* `Run.Ending` — the four ways
* `Run.Ending.IsDue` — what an ending takes
* `Run.Ending.Yields` — what an ending leaves

## Main results

* `Run.inject_ends` — an injection ends in one way, told by its cause and by its outcome
-/

namespace Scaffold

namespace Run

/-- A way in which an injection ends. -/
inductive Ending
  | missing
  | satisfied
  | readOnly
  | patched
deriving DecidableEq, Repr

namespace Ending

variable {j : Injection} {path : Path} {p q : Progress Memory} {a : Except Failure Bool}

/-- What has to be the case for an ending. -/
def IsDue (j : Injection) (path : Path) (m : Memory) : Ending → Prop
  | missing => m.files.lookup path.text = none
  | satisfied => ∃ contents, m.files.lookup path.text = some contents ∧
      j.isSatisfied (Text.unifyNewlines contents) = true
  | readOnly => ∃ contents, m.files.lookup path.text = some contents ∧
      j.isSatisfied (Text.unifyNewlines contents) = false ∧ path.text ∈ m.readOnly
  | patched => ∃ contents, m.files.lookup path.text = some contents ∧
      j.isSatisfied (Text.unifyNewlines contents) = false ∧ path.text ∉ m.readOnly

/-- Neither the store nor the events are different. -/
def IsUntouched (p q : Progress Memory) : Prop := q.store = p.store ∧ q.events = p.events

/-- The file at a path holds other contents, which were written and reported once, and everything
else is as it was. -/
structure IsPatched (path : Path) (contents : Text) (p q : Progress Memory) : Prop where
  lookup_eq : q.store.files.lookup path.text = some contents
  lookup_of_ne : ∀ key, key ≠ path.text → q.store.files.lookup key = p.store.files.lookup key
  readOnly_eq : q.store.readOnly = p.store.readOnly
  writes_eq : q.store.writes = p.store.writes ++ [(path.text, contents)]
  events_eq : q.events = p.events ++ [⟨.injected, path⟩]

/-- What an ending gives back and leaves behind. -/
def Yields (j : Injection) (path : Path) (p : Progress Memory) (a : Except Failure Bool)
    (q : Progress Memory) : Ending → Prop
  | missing => IsUntouched p q ∧
      ∃ e, a = .error (.storage e) ∧ e.isMissing = true ∧ e.path? = some path
  | satisfied => IsUntouched p q ∧ a = .ok false
  | readOnly => IsUntouched p q ∧
      ∃ e, a = .error (.storage e) ∧ e.isMissing = false ∧ e.path? = some path
  | patched => a = .ok true ∧
      ∃ contents, p.store.files.lookup path.text = some contents ∧
        IsPatched path (j.apply (Text.unifyNewlines contents)) p q

/-! ### One at a time -/

/-- No two endings have the same cause. -/
theorem IsDue.unique {m : Memory} {k l : Ending} (hk : k.IsDue j path m) (hl : l.IsDue j path m) :
    k = l := by
  cases hfile : m.files.lookup path.text <;> cases k <;> cases l <;>
    simp_all [IsDue, -List.lookup_eq_none_iff]

/-- No two endings have the same outcome. -/
theorem Yields.unique {k l : Ending} (hk : k.Yields j path p a q) (hl : l.Yields j path p a q) :
    k = l := by
  cases k <;> cases l <;> grind [Yields]

end Ending

theorem isPatched_wrote (path : Path) (contents : Text) (p : Progress Memory) (notes : List Note) :
    Ending.IsPatched path contents p (p.wrote .injected path contents notes) where
  lookup_eq := Memory.lookup_put_self _ _ _
  lookup_of_ne _ hne := Memory.lookup_put_of_ne hne _ _
  readOnly_eq := rfl
  writes_eq := rfl
  events_eq := rfl

/-- **An injection does all of it or nothing.** For every injection, path and progress one ending is
due and no other, the injection ends that way, and what it gives back fits no other ending. -/
theorem inject_ends (j : Injection) (path : Path) (p : Progress Memory) :
    ∃ k : Ending, (∀ l : Ending, l.IsDue j path p.store ↔ l = k) ∧
      ∀ l : Ending, l.Yields j path p (inject j path p).1 (inject j path p).2 ↔ l = k := by
  obtain ⟨k, hdue, hyields⟩ : ∃ k : Ending, k.IsDue j path p.store ∧
      k.Yields j path p (inject j path p).1 (inject j path p).2 := by
    rcases hrun : inject j path p with ⟨a, q⟩
    cases inject_outcome hrun with
    | noTarget habsent =>
      exact ⟨.missing, Memory.lookup_eq_none_of_holds habsent, ⟨rfl, rfl⟩, _, rfl, rfl, rfl⟩
    | notFound hthere hfile =>
      exact ⟨.missing, hfile, ⟨rfl, rfl⟩, _, rfl, rfl, rfl⟩
    | satisfied hfile hsat =>
      exact ⟨.satisfied, ⟨_, hfile, hsat⟩, ⟨rfl, rfl⟩, rfl⟩
    | readOnly hfile hsat hprotected =>
      exact ⟨.readOnly, ⟨_, hfile, hsat, hprotected⟩, ⟨rfl, rfl⟩, _, rfl, rfl, rfl⟩
    | patched hfile hsat hfree =>
      exact ⟨.patched, ⟨_, hfile, hsat, hfree⟩, rfl, _, hfile, isPatched_wrote _ _ _ _⟩
  exact ⟨k, fun l => ⟨fun hl => hl.unique hdue, fun heq => heq ▸ hdue⟩,
    fun l => ⟨fun hl => hl.unique hyields, fun heq => heq ▸ hyields⟩⟩

end Run

end Scaffold
