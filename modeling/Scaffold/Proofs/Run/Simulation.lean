import Scaffold.Proofs.Run.Sequence
import Scaffold.Proofs.Storage.Memory

/-!
# Runs that go alike

Two places where files are kept, and the same document run on both. A `Simulation` says what ties
the one place to the other: a path of the first is looked up under another path in the second,
and asked about such a pair of paths the two give answers that a run cannot tell apart. Files need
not hold the same text for that: a run never sees more of a file than its text with unified line
ends.

Then the runs do the same, operation by operation, up to the change of paths: they skip the same
pairs, report the same events and end in the same way, and the tie still holds where they end.

## Main results

* `Run.Simulation.inject`, `Run.Simulation.writeBody`, `Run.Simulation.isSkipped` — one operation
* `Run.Simulation.pairs`, `Run.Simulation.document` — whole runs
* `Memory.write_fst_alike`, `Memory.write_snd_alike` — writing to files in memory on both sides
-/

namespace Scaffold

/-- The failure as it is about another path. -/
def Storage.Failure.mapPath (f : Path → Path) : Storage.Failure → Storage.Failure
  | notFound path => .notFound (f path)
  | noTarget path => .noTarget (f path)
  | unreadable path => .unreadable (f path)
  | unwritable path => .unwritable (f path)
  | readOnly path => .readOnly (f path)
  | nullInPath => .nullInPath

@[simp] theorem Storage.Failure.mapPath_id : Storage.Failure.mapPath id = id := by
  funext e
  cases e <;> rfl

theorem Storage.Failure.mapError_mapPath_id {α : Type} (answer : Except Failure α) :
    answer.mapError (·.mapPath id) = answer := by
  cases answer with
  | error e => exact congrArg Except.error (congrFun mapPath_id e)
  | ok => rfl

namespace Run

/-! ### Change of paths -/

/-- The failure as it is about another path. A document that cannot be read has none. -/
def Failure.mapPath (f : Path → Path) : Failure → Failure
  | document e => .document e
  | storage e => .storage (e.mapPath f)

/-- The event as it is about another path. -/
def Event.mapPath (f : Path → Path) (event : Event) : Event := ⟨event.kind, f event.path⟩

/-- The line of the log as it is about another path. A target is logged as it was written. -/
def Note.mapPath (f : Path → Path) : Note → Note
  | wrote path => .wrote (f path)
  | injected placement path => .injected placement (f path)
  | idle target => .idle target

@[simp] theorem Failure.mapPath_id : Failure.mapPath id = id := by
  funext e
  cases e <;> simp [mapPath]

@[simp] theorem Event.mapPath_id : Event.mapPath id = id := rfl

@[simp] theorem Note.mapPath_id : Note.mapPath id = id := by
  funext note
  cases note <;> rfl

@[simp] theorem map_mapPath_notesOf (f : Path → Path) (j : Injection) :
    (notesOf j).map (Note.mapPath f) = notesOf j := by
  unfold notesOf
  cases j.placement <;> rfl

/-! ### The tie between two places -/

/-- What ties one place where files are kept to another, for runs with a working directory each. -/
structure Simulation (σ τ : Type) [Storage σ] [Storage τ] where
  wd : Option Path
  wd' : Option Path
  /-- Where the second place has what the first has at a path. -/
  move : Path → Path
  Related : σ → τ → Prop
  /-- The written paths that lead to corresponding paths. -/
  Reaches : Text → Prop
  /-- The written patterns that match in both places or in none. -/
  Matches : Text → Prop
  resolve_eq {path : Text} : Reaches path → resolve wd' path = move (resolve wd path)
  holds_eq {m : σ} {n : τ} {path : Text} : Related m n → Reaches path →
    Storage.holds n (resolve wd' path) = Storage.holds m (resolve wd path)
  glob_eq {m : σ} {n : τ} {pattern : Text} : Related m n → Matches pattern →
    (Storage.glob n (resolve wd' pattern).text).isEmpty =
      (Storage.glob m (resolve wd pattern).text).isEmpty
  read_eq {m : σ} {n : τ} {path : Text} : Related m n → Reaches path →
    (Storage.read n (resolve wd' path)).map Text.unifyNewlines =
      ((Storage.read m (resolve wd path)).map Text.unifyNewlines).mapError (·.mapPath move)
  write_eq {m : σ} {n : τ} {path : Text} (contents : Text) : Related m n → Reaches path →
    (Storage.write n (resolve wd' path) contents).1 =
      (Storage.write m (resolve wd path) contents).1.mapError (·.mapPath move)
  related_write {m : σ} {n : τ} {path : Text} (contents : Text) : Related m n → Reaches path →
    Related (Storage.write m (resolve wd path) contents).2
      (Storage.write n (resolve wd' path) contents).2

namespace Simulation

variable {σ τ : Type} [Storage σ] [Storage τ] (S : Simulation σ τ) {p : Progress σ}
  {q : Progress τ}

/-- Two runs that have come equally far. -/
structure InStep (p : Progress σ) (q : Progress τ) : Prop where
  related : S.Related p.store q.store
  events_eq : q.events = p.events.map (Event.mapPath S.move)
  notes_eq : q.notes = p.notes.map (Note.mapPath S.move)

/-- Two actions that ended in the same way, with the runs in step. -/
def Agree {α : Type} (x : Except Failure α × Progress σ) (y : Except Failure α × Progress τ) :
    Prop :=
  (∃ e p q, x = (.error e, p) ∧ y = (.error (e.mapPath S.move), q) ∧ S.InStep p q) ∨
    ∃ a p q, x = (.ok a, p) ∧ y = (.ok a, q) ∧ S.InStep p q

/-- A directive all of whose paths and patterns lead to the same in both places. -/
structure Covers (d : Directive) : Prop where
  target : S.Reaches d.target
  injections : ∀ j ∈ d.injections, S.Reaches j.target
  glob : ∀ pattern ∈ d.skipIfGlob, pattern ≠ [] → S.Matches pattern

variable {S}

/-! ### Operations -/

theorem isSkipped (h : S.InStep p q) {d : Directive} (hd : S.Covers d) :
    Run.isSkipped S.wd' d q.store = Run.isSkipped S.wd d p.store := by
  rw [Run.isSkipped, Run.isSkipped, S.holds_eq h.related hd.target]
  cases hglob : d.skipIfGlob with
  | none => rfl
  | some pattern =>
    by_cases hne : pattern = []
    · simp [hne]
    · have hmatch := S.glob_eq h.related (hd.glob pattern hglob hne)
      simp only [hmatch]

theorem writeBody (h : S.InStep p q) {path : Text} (hpath : S.Reaches path) (body : Text) :
    S.Agree (Run.writeBody (resolve S.wd path) body p)
      (Run.writeBody (resolve S.wd' path) body q) := by
  have hwrite := S.write_eq body h.related hpath
  have hrelated := S.related_write body h.related hpath
  rw [Run.writeBody, Run.writeBody, S.holds_eq h.related hpath]
  rcases hm : Storage.write p.store (resolve S.wd path) body with ⟨e | _, m⟩ <;>
    rcases hn : Storage.write q.store (resolve S.wd' path) body with ⟨e' | _, n⟩ <;>
      rw [hm, hn] at hwrite hrelated <;> cases hwrite
  · exact Or.inl ⟨_, _, _, rfl, rfl, hrelated, h.events_eq, h.notes_eq⟩
  · refine Or.inr ⟨_, _, _, rfl, rfl, hrelated, ?_, ?_⟩
    · simp [h.events_eq, S.resolve_eq hpath, Event.mapPath]
    · simp [h.notes_eq, S.resolve_eq hpath, Note.mapPath]

theorem inject (h : S.InStep p q) {j : Injection} (hpath : S.Reaches j.target) :
    S.Agree (Run.inject j (resolve S.wd j.target) p) (Run.inject j (resolve S.wd' j.target) q) := by
  have hread := S.read_eq h.related hpath
  rw [Run.inject, Run.inject, S.holds_eq h.related hpath]
  cases Storage.holds p.store (resolve S.wd j.target) with
  | false =>
    rw [S.resolve_eq hpath]
    exact Or.inl ⟨_, _, _, rfl, rfl, h⟩
  | true =>
    rcases hm : Storage.read p.store (resolve S.wd j.target) with e | contents <;>
      rcases hn : Storage.read q.store (resolve S.wd' j.target) with e' | contents' <;>
        rw [hm, hn] at hread
    · have hfailure : e' = e.mapPath S.move := Except.error.inj hread
      rw [hfailure]
      exact Or.inl ⟨_, _, _, rfl, rfl, h⟩
    · cases hread
    · cases hread
    · -- only the unified texts are the same, and nothing else of them is looked at
      have hunified : Text.unifyNewlines contents' = Text.unifyNewlines contents :=
        Except.ok.inj hread
      simp only [Bool.not_true, Bool.false_eq_true, if_false, hunified]
      cases j.isSatisfied (Text.unifyNewlines contents) with
      | true => exact Or.inr ⟨_, _, _, rfl, rfl, h⟩
      | false =>
        simp only [Bool.false_eq_true, if_false]
        generalize j.apply (Text.unifyNewlines contents) = patched
        have hwrite := S.write_eq patched h.related hpath
        have hrelated := S.related_write patched h.related hpath
        rcases hm : Storage.write p.store (resolve S.wd j.target) patched with ⟨e | _, m⟩ <;>
          rcases hn : Storage.write q.store (resolve S.wd' j.target) patched with ⟨e' | _, n⟩ <;>
            rw [hm, hn] at hwrite hrelated <;> cases hwrite
        · refine Or.inl ⟨_, _, _, rfl, rfl, hrelated, h.events_eq, ?_⟩
          simp [h.notes_eq]
        · refine Or.inr ⟨_, _, _, rfl, rfl, hrelated, ?_, ?_⟩
          · simp [h.events_eq, S.resolve_eq hpath, Event.mapPath]
          · simp [h.notes_eq, S.resolve_eq hpath, Note.mapPath]

/-! ### Runs -/

theorem injectAll {js : List Injection} (hjs : ∀ j ∈ js, S.Reaches j.target) (h : S.InStep p q) :
    S.Agree (Run.injectAll S.wd js p) (Run.injectAll S.wd' js q) := by
  induction js generalizing p q with
  | nil => exact Or.inr ⟨_, _, _, rfl, rfl, h⟩
  | cons j js ih =>
    rw [List.forall_mem_cons] at hjs
    rw [Run.injectAll, Run.injectAll]
    obtain ⟨e, p', q', hp, hq, h'⟩ | ⟨b, p', q', hp, hq, h'⟩ := inject h hjs.1
    · rw [hp, hq]
      exact Or.inl ⟨_, _, _, rfl, rfl, h'⟩
    · rw [hp, hq]
      exact ih hjs.2 h'

theorem pair {d : Directive} (hd : S.Covers d) (body : Text) (h : S.InStep p q) :
    S.Agree (Run.pair S.wd d body p) (Run.pair S.wd' d body q) := by
  rw [Run.pair, Run.pair, isSkipped h hd]
  cases Run.isSkipped S.wd d p.store with
  | true =>
    refine Or.inr ⟨_, _, _, rfl, rfl, h.related, ?_, h.notes_eq⟩
    simp [h.events_eq, S.resolve_eq hd.target, Event.mapPath]
  | false =>
    simp only [Bool.false_eq_true, if_false]
    obtain ⟨e, p', q', hp, hq, h'⟩ | ⟨_, p', q', hp, hq, h'⟩ := writeBody h hd.target body
    · rw [hp, hq]
      exact Or.inl ⟨_, _, _, rfl, rfl, h'⟩
    · rw [hp, hq]
      dsimp only
      obtain ⟨e, p'', q'', hp', hq', h''⟩ | ⟨_, p'', q'', hp', hq', h''⟩ :=
        injectAll hd.injections h'
      · rw [hp', hq']
        exact Or.inl ⟨_, _, _, rfl, rfl, h''⟩
      · rw [hp', hq']
        exact Or.inr ⟨_, _, _, rfl, rfl, h''⟩

theorem pairs {ps : List (Directive × Text)} (hps : ∀ x ∈ ps, S.Covers x.1) (h : S.InStep p q) :
    S.Agree (Run.pairs S.wd ps p) (Run.pairs S.wd' ps q) := by
  induction ps generalizing p q with
  | nil => exact Or.inr ⟨_, _, _, rfl, rfl, h⟩
  | cons x ps ih =>
    rw [List.forall_mem_cons] at hps
    rw [Run.pairs, Run.pairs]
    obtain ⟨e, p', q', hp, hq, h'⟩ | ⟨r, p', q', hp, hq, h'⟩ := pair hps.1 x.2 h
    · rw [hp, hq]
      exact Or.inl ⟨_, _, _, rfl, rfl, h'⟩
    · rw [hp, hq]
      dsimp only
      obtain ⟨e, p'', q'', hp', hq', h''⟩ | ⟨rs, p'', q'', hp', hq', h''⟩ := ih hps.2 h'
      · rw [hp', hq']
        exact Or.inl ⟨_, _, _, rfl, rfl, h''⟩
      · rw [hp', hq']
        exact Or.inr ⟨_, _, _, rfl, rfl, h''⟩

/-- **Related places see the same run.** -/
theorem document {s : Text} (hs : ∀ ps, Document.parse s = .ok ps → ∀ x ∈ ps, S.Covers x.1)
    (h : S.InStep p q) : S.Agree (Run.document S.wd s p) (Run.document S.wd' s q) := by
  rw [Run.document, Run.document]
  rcases hparse : Document.parse s with e | ps
  · exact Or.inl ⟨_, _, _, rfl, rfl, h⟩
  · dsimp only
    obtain ⟨e, p', q', hp, hq, h'⟩ | ⟨results, p', q', hp, hq, h'⟩ := pairs (hs ps hparse) h
    · rw [hp, hq]
      exact Or.inl ⟨_, _, _, rfl, rfl, h'⟩
    · rw [hp, hq]
      exact Or.inr ⟨_, _, _, rfl, rfl, h'⟩

end Simulation

end Run

/-! ### Files in memory on both sides -/

namespace Memory

variable {m n : Memory} {path path' : Path}

/-- A write is refused on both sides or on none, as long as the same files are protected. -/
theorem write_fst_alike {f : Path → Path} (hf : path' = f path)
    (hmem : path'.text ∈ n.readOnly ↔ path.text ∈ m.readOnly) (contents : Text) :
    (n.write path' contents).1 = (m.write path contents).1.mapError (·.mapPath f) := by
  by_cases h : path.text ∈ m.readOnly
  · rw [write_of_mem h, write_of_mem (hmem.mpr h), hf]
    rfl
  · rw [write_of_not_mem h, write_of_not_mem fun h' => h (hmem.mp h')]
    rfl

/-- What holds of both stores, and of both once they were written, holds after the write. -/
theorem write_snd_alike {R : Memory → Memory → Prop}
    (hmem : path'.text ∈ n.readOnly ↔ path.text ∈ m.readOnly) {contents : Text} (h : R m n)
    (hwritten : R (m.written path contents) (n.written path' contents)) :
    R (m.write path contents).2 (n.write path' contents).2 := by
  by_cases hp : path.text ∈ m.readOnly
  · rwa [write_of_mem hp, write_of_mem (hmem.mpr hp)]
  · rwa [write_of_not_mem hp, write_of_not_mem fun h' => hp (hmem.mp h')]

end Memory

end Scaffold
