import Scaffold.Proofs.Run.Frame
import Scaffold.Proofs.Run.Simulation
import Mathlib.Control.Monad.Basic

/-!
# Pairs that do not meet

Two pairs whose files are apart can be run in either order. `AgreeOn` says that two stores cannot
be told apart by a pair that looks at certain keys only, and a run of the pair keeps it so; what a
pair leaves alone is said by `Confined`. From these two the store that is left does not depend on
the order, and neither does what each pair answers and reports.

It is not enough that no key of one pair is a key of the other. Whether anything is at a path is
also asked of directories, and there is a directory wherever a file was written below it. So no key
may be above one of the other pair either.

A pattern is matched against all files and sees what any pair writes, so a directive with one is
left out here.

## Main results

* `Run.pair_behind` — what was done before changes neither the answer nor what is added
* `Run.AgreeOn.of_confined` — what another pair does is not seen
* `Run.pair_comm` — two pairs in either order
-/

namespace Scaffold

/-- A directive that is not skipped because of a pattern. -/
def Directive.HasNoGlob (d : Directive) : Prop := d.skipIfGlob.getD [] = []

instance (d : Directive) : Decidable d.HasNoGlob := inferInstanceAs (Decidable (_ = _))

theorem Directive.HasNoGlob.eq_nil {d : Directive} (h : d.HasNoGlob) {pattern : Text}
    (hpattern : pattern ∈ d.skipIfGlob) : pattern = [] := by
  rw [HasNoGlob, hpattern] at h
  exact h

namespace Run

/-! ### What was done before -/

section

variable {σ : Type} [Storage σ]

/-- The progress of a run that went on from where another one had come. -/
def Progress.behind (events : List Event) (notes : List Note) (p : Progress σ) : Progress σ :=
  ⟨p.store, events ++ p.events, notes ++ p.notes⟩

variable (events : List Event) (notes : List Note) (p : Progress σ)

theorem writeBody_behind (path : Path) (body : Text) :
    writeBody path body (p.behind events notes) =
      (writeBody path body p).map id (Progress.behind events notes) := by
  have hstore : (p.behind events notes).store = p.store := rfl
  rw [writeBody, writeBody, hstore]
  rcases Storage.write p.store path body with ⟨e | _, m⟩
  · rfl
  · simp [Progress.behind]

theorem inject_behind (j : Injection) (path : Path) :
    inject j path (p.behind events notes) =
      (inject j path p).map id (Progress.behind events notes) := by
  have hstore : (p.behind events notes).store = p.store := rfl
  rw [inject, inject, hstore]
  cases hthere : Storage.holds p.store path with
  | false => rfl
  | true =>
    rcases hread : Storage.read p.store path with e | contents
    · rfl
    · cases hsat : j.isSatisfied (Text.unifyNewlines contents) with
      | true => simp [hsat]
      | false =>
        rcases hw : Storage.write p.store path (j.apply (Text.unifyNewlines contents))
          with ⟨e | _, m⟩ <;> simp [hsat, hw, Progress.behind]

theorem injectAll_behind (wd : Option Path) (js : List Injection) :
    injectAll wd js (p.behind events notes) =
      (injectAll wd js p).map id (Progress.behind events notes) := by
  induction js generalizing p with
  | nil => rfl
  | cons j js ih =>
    rw [injectAll, injectAll, inject_behind]
    rcases inject j (resolve wd j.target) p with ⟨e | _, q⟩
    · rfl
    · exact ih q

/-- **What was done before changes neither the answer of a pair nor what it adds.** -/
theorem pair_behind (wd : Option Path) (d : Directive) (body : Text) :
    pair wd d body (p.behind events notes) =
      (pair wd d body p).map id (Progress.behind events notes) := by
  have hstore : (p.behind events notes).store = p.store := rfl
  rw [pair, pair, hstore, writeBody_behind]
  cases isSkipped wd d p.store with
  | true => simp [Progress.behind]
  | false =>
    rcases writeBody (resolve wd d.target) body p with ⟨e | _, q⟩
    · rfl
    · have hjs := injectAll_behind events notes q wd d.injections
      simp only [Bool.false_eq_true, if_false, Prod.map, id, hjs]
      rcases injectAll wd d.injections q with ⟨e | _, q'⟩ <;> rfl

end

variable {wd : Option Path} {keys : List Text} {m m' n : Memory}

/-! ### Stores that look alike -/

/-- Two stores that look alike to who asks about certain keys only. -/
structure AgreeOn (keys : List Text) (m n : Memory) : Prop where
  lookup_eq : ∀ key ∈ keys, n.files.lookup key = m.files.lookup key
  holds_eq : ∀ path : Path, path.text ∈ keys → n.holds path = m.holds path
  readOnly_iff : ∀ key ∈ keys, key ∈ n.readOnly ↔ key ∈ m.readOnly

theorem AgreeOn.written (h : AgreeOn keys m n) (path : Path) (contents : Text) :
    AgreeOn keys (m.written path contents) (n.written path contents) where
  lookup_eq key hkey := by
    rw [Memory.written, Memory.written, Memory.lookup_put, Memory.lookup_put, h.lookup_eq key hkey]
  holds_eq at' hat := by
    rw [Bool.eq_iff_iff, Memory.holds_written_iff, Memory.holds_written_iff, h.holds_eq at' hat]
  readOnly_iff := h.readOnly_iff

/-- Two keys neither of which is the other or above it. -/
def Apart (a b : Text) : Prop := a ≠ b ∧ ¬Memory.below a <+: b ∧ ¬Memory.below b <+: a

instance (a b : Text) : Decidable (Apart a b) := inferInstanceAs (Decidable (_ ∧ _))

/-- **What is done to keys that are apart is not seen.** -/
theorem AgreeOn.of_confined {changed created : List Text} (h : Confined changed created m m')
    (hchanged : ∀ key ∈ keys, key ∉ changed)
    (hcreated : ∀ key ∈ keys, ∀ new ∈ created, Apart key new) :
    AgreeOn keys m m' where
  lookup_eq key hkey := h.lookup_eq key (Or.inl (hchanged key hkey))
  holds_eq path hpath := by
    rw [Bool.eq_iff_iff]
    refine ⟨fun hholds => ?_, Memory.holds_mono h.keys_subset⟩
    obtain ⟨key, hkey, hat⟩ := Memory.holds_iff.mp hholds
    rcases h.mem_created key hkey with hold | hnew
    · exact Memory.holds_iff.mpr ⟨key, hold, hat⟩
    · obtain ⟨hne, habove, -⟩ := hcreated path.text hpath key hnew
      exact (hat.elim (fun heq => hne heq.symm) habove).elim
  readOnly_iff key _ := by rw [h.readOnly_eq]

/-- Runs that look at certain keys only, on two stores that agree on them. -/
def looking (wd : Option Path) (keys : List Text) : Simulation Memory Memory where
  wd := wd
  wd' := wd
  move := id
  Related := AgreeOn keys
  Reaches path := keyOf wd path ∈ keys
  Matches _ := False
  resolve_eq _ := rfl
  holds_eq h hpath := h.holds_eq _ hpath
  glob_eq _ hnone := hnone.elim
  read_eq {m n path} h hpath := by
    have hread : n.read (resolve wd path) = m.read (resolve wd path) := by
      rw [Memory.read, Memory.read, h.lookup_eq _ hpath]
    exact (congrArg _ hread).trans (Storage.Failure.mapError_mapPath_id _).symm
  write_eq contents h hpath :=
    Memory.write_fst_alike (f := id) rfl (h.readOnly_iff _ hpath) contents
  related_write contents h hpath :=
    Memory.write_snd_alike (h.readOnly_iff _ hpath) h (h.written _ contents)

/-! ### One pair -/

section

variable {d : Directive} {body : Text}

theorem covers_looking (hglob : d.HasNoGlob) :
    (looking wd (declaredKeys wd (d, body))).Covers d where
  target := List.mem_cons_self
  injections _ hj := List.mem_cons_of_mem _ (List.mem_map_of_mem hj)
  glob _ hpattern hne := hne (hglob.eq_nil hpattern)

/-- **A pair answers the same, and reports the same, wherever its files look the same.** -/
theorem pair_of_agreeOn (hglob : d.HasNoGlob) {p q : Progress Memory}
    (h : AgreeOn (declaredKeys wd (d, body)) p.store q.store) :
    (pair wd d body q).1 = (pair wd d body p).1 ∧
      (∃ es, (pair wd d body p).2.events = p.events ++ es ∧
        (pair wd d body q).2.events = q.events ++ es) ∧
      AgreeOn (declaredKeys wd (d, body)) (pair wd d body p).2.store
        (pair wd d body q).2.store := by
  let S := looking wd (declaredKeys wd (d, body))
  have hstart : S.InStep ⟨p.store, [], []⟩ ⟨q.store, [], []⟩ := ⟨h, rfl, rfl⟩
  -- both are run without a past, and the past is put in front again
  have hp := pair_behind p.events p.notes ⟨p.store, [], []⟩ wd d body
  have hq := pair_behind q.events q.notes ⟨q.store, [], []⟩ wd d body
  simp only [Progress.behind, List.append_nil] at hp hq
  rw [hp, hq]
  obtain ⟨e, p', q', hp', hq', hend⟩ | ⟨r, p', q', hp', hq', hend⟩ :=
    S.pair (covers_looking hglob) body hstart
  all_goals
    have hevents : q'.events = p'.events := by simpa [S, looking] using hend.events_eq
    have hpair : pair wd d body ⟨p.store, [], []⟩ = _ := hp'
    have hpair' : pair wd d body ⟨q.store, [], []⟩ = _ := hq'
    rw [hpair, hpair']
    refine ⟨?_, ⟨p'.events, rfl, congrArg _ hevents⟩, hend.related⟩
  · exact congrArg Except.error (congrFun Failure.mapPath_id e)
  · rfl

/-- A pair is confined to what it declares, whether or not it is skipped. -/
theorem confined_declaredKeys (wd : Option Path) (d : Directive) (body : Text)
    (p : Progress Memory) :
    Confined (declaredKeys wd (d, body)) (declaredKeys wd (d, body)) p.store
      (pair wd d body p).2.store := by
  cases hskip : isSkipped wd d p.store with
  | true =>
    rw [store_eq_of_isSkipped hskip (Prod.eta _).symm]
    exact .refl _ _ _
  | false =>
    exact (confined_pair hskip (Prod.eta _).symm).mono (List.Subset.refl _)
      (by simp [declaredKeys])

end

/-! ### Two pairs -/

/-- Two pairs whose keys are apart: those of the targets, and those of the injections. -/
def Independent (wd : Option Path) (x y : Directive × Text) : Prop :=
  ∀ a ∈ declaredKeys wd x, ∀ b ∈ declaredKeys wd y, Apart a b

instance (wd : Option Path) (x y : Directive × Text) : Decidable (Independent wd x y) :=
  inferInstanceAs (Decidable (∀ _ ∈ _, _))

theorem Independent.symm {x y : Directive × Text} (h : Independent wd x y) : Independent wd y x :=
  fun a ha b hb => ⟨(h b hb a ha).1.symm, (h b hb a ha).2.2, (h b hb a ha).2.1⟩

variable {d d' : Directive} {body body' : Text}

/-- What one pair does is not seen by a pair that is independent of it. -/
theorem Independent.agreeOn (h : Independent wd (d, body) (d', body')) (p : Progress Memory) :
    AgreeOn (declaredKeys wd (d', body')) p.store (pair wd d body p).2.store :=
  .of_confined (confined_declaredKeys wd d body p)
    (fun key hkey hin => (h.symm key hkey key hin).1 rfl) h.symm

theorem lookup_pair_of_not_mem {key : Text} (hkey : key ∉ declaredKeys wd (d, body))
    (p : Progress Memory) :
    (pair wd d body p).2.store.files.lookup key = p.store.files.lookup key :=
  (confined_declaredKeys wd d body p).lookup_eq key (Or.inl hkey)

/-- A pair leaves its own files the same whether it is run in front of or behind a pair that is
independent of it. -/
theorem Independent.lookup_eq (h : Independent wd (d, body) (d', body')) (hglob : d.HasNoGlob)
    (p : Progress Memory) {key : Text} (hkey : key ∈ declaredKeys wd (d, body)) :
    (pair wd d body (pair wd d' body' p).2).2.store.files.lookup key =
      (pair wd d' body' (pair wd d body p).2).2.store.files.lookup key := by
  have hbehind := (pair_of_agreeOn hglob (h.symm.agreeOn p)).2.2.lookup_eq key hkey
  have hother : key ∉ declaredKeys wd (d', body') := fun hin => (h key hkey key hin).1 rfl
  rw [hbehind, lookup_pair_of_not_mem hother]

/-- Two pairs run to their end if the first one does, and then the second one behind it. -/
theorem isOk_pairs_two (p : Progress Memory) :
    (pairs wd [(d, body), (d', body')] p).1.isOk =
      ((pair wd d body p).1.isOk && (pair wd d' body' (pair wd d body p).2).1.isOk) := by
  rw [pairs]
  rcases pair wd d body p with ⟨e | r, q⟩
  · rfl
  · dsimp only
    rw [pairs]
    rcases pair wd d' body' q with ⟨e | r', q'⟩ <;> rfl

/-- **Pairs that do not meet can be run in either order.** Both orders succeed or neither does,
each pair answers and reports in the second place what it answers and reports in the first, and
the same files are left. -/
theorem pair_comm (hglob : d.HasNoGlob) (hglob' : d'.HasNoGlob)
    (h : Independent wd (d, body) (d', body')) (p : Progress Memory) :
    let first := pair wd d body p
    let behindFirst := pair wd d' body' first.2
    let first' := pair wd d' body' p
    let behindFirst' := pair wd d body first'.2
    (pairs wd [(d, body), (d', body')] p).1.isOk =
        (pairs wd [(d', body'), (d, body)] p).1.isOk ∧
      behindFirst'.1 = first.1 ∧ behindFirst.1 = first'.1 ∧
      (∃ es es', first.2.events = p.events ++ es ∧ behindFirst'.2.events = first'.2.events ++ es ∧
        first'.2.events = p.events ++ es' ∧ behindFirst.2.events = first.2.events ++ es') ∧
      ∀ key, behindFirst'.2.store.files.lookup key = behindFirst.2.store.files.lookup key := by
  intro first behindFirst first' behindFirst'
  obtain ⟨hanswer, ⟨es, hes, hbehind⟩, -⟩ := pair_of_agreeOn hglob (h.symm.agreeOn p)
  obtain ⟨hanswer', ⟨es', hes', hbehind'⟩, -⟩ := pair_of_agreeOn hglob' (h.agreeOn p)
  refine ⟨?_, hanswer, hanswer', ⟨es, es', hes, hbehind, hes', hbehind'⟩, fun key => ?_⟩
  · rw [isOk_pairs_two, isOk_pairs_two, hanswer, hanswer', Bool.and_comm]
  · by_cases hkey : key ∈ declaredKeys wd (d, body)
    · exact h.lookup_eq hglob p hkey
    · by_cases hkey' : key ∈ declaredKeys wd (d', body')
      · exact (h.symm.lookup_eq hglob' p hkey').symm
      · -- neither pair touches the file
        show (pair wd d body first'.2).2.store.files.lookup key =
          (pair wd d' body' first.2).2.store.files.lookup key
        rw [lookup_pair_of_not_mem hkey, lookup_pair_of_not_mem hkey',
          lookup_pair_of_not_mem hkey', lookup_pair_of_not_mem hkey]

/-- A pair that writes `a/x` unless it is there, and patches `b`. -/
def patchingPair : Directive × Text :=
  (⟨Text.of "a/x", true, none, some ['m'], [⟨['b'], ['y'], false, none, some .append⟩]⟩, ['1'])

/-- A pair that writes `c`, and patches what it wrote. -/
def writingPair : Directive × Text :=
  (⟨['c'], false, none, none, [⟨['c'], ['x'], false, none, some .prepend⟩]⟩, ['2'])

theorem pair_comm_patching :
    let p : Progress Memory := ⟨⟨[(['b'], ['z'])], [], []⟩, [], []⟩
    let first := pair none patchingPair.1 patchingPair.2 p
    let behindFirst := pair none writingPair.1 writingPair.2 first.2
    let first' := pair none writingPair.1 writingPair.2 p
    let behindFirst' := pair none patchingPair.1 patchingPair.2 first'.2
    first.1 = .ok (.generated (some ['m'])) ∧
      behindFirst.2.store.files = [(['b'], Text.of "z\ny"), (Text.of "a/x", ['1']),
        (['c'], Text.of "x\n2")] ∧
      (pairs none [patchingPair, writingPair] p).1.isOk =
        (pairs none [writingPair, patchingPair] p).1.isOk ∧
      behindFirst'.1 = first.1 ∧ behindFirst.1 = first'.1 ∧
      (∃ es es', first.2.events = p.events ++ es ∧ behindFirst'.2.events = first'.2.events ++ es ∧
        first'.2.events = p.events ++ es' ∧ behindFirst.2.events = first.2.events ++ es') ∧
      ∀ key, behindFirst'.2.store.files.lookup key = behindFirst.2.store.files.lookup key := by
  intro p first behindFirst first' behindFirst'
  have hapart : Independent none (patchingPair.1, patchingPair.2)
      (writingPair.1, writingPair.2) := by
    decide +kernel
  exact ⟨by decide +kernel, by decide +kernel, pair_comm (by decide) (by decide) hapart p⟩

end Run

end Scaffold
