import Scaffold.Proofs.Run.Sequence
import Scaffold.Proofs.Storage.Memory
import Mathlib.Logic.Relation

/-!
# Runs on files in memory

What the two operations of a run can come to when files are kept in memory, each case with all
it presupposes, and a run as a sequence of steps.

A `Step` forgets what an operation was for and keeps what it does: report a skip, write a file
and report it, or add to the log. Whatever every step preserves holds at the end of every run,
of one that fails as much as of one that does not, and so no invariant is proved by going
through pairs and injections again.

## Main results

* `Run.writeBody_outcome`, `Run.inject_outcome` — the cases of an operation
* `Run.inject_of_lookup` — an injection into a file that is there
* `Run.isSkipped_iff`, `Run.isSkipped_mono` — when a pair is skipped, and that it stays so
* `Run.steps_document` — a run is a sequence of steps
* `Run.Steps.keys_subset`, `Run.Steps.readOnly_eq` — no file goes away, no protection changes
-/

namespace Scaffold

namespace Run

/-- The progress once a file was put at a path and that was reported. -/
def Progress.wrote (p : Progress Memory) (kind : EventKind) (path : Path) (contents : Text)
    (notes : List Note) : Progress Memory :=
  ⟨p.store.written path contents, p.events ++ [⟨kind, path⟩], p.notes ++ notes⟩

/-- The key of the file that a written path leads to. -/
abbrev keyOf (wd : Option Path) (path : Text) : Text := (resolve wd path).text

variable {wd : Option Path} {p q : Progress Memory}

/-! ### Outcomes -/

/-- What writing a body comes to. -/
inductive BodyOutcome (path : Path) (body : Text) (p : Progress Memory) :
    Except Failure Unit → Progress Memory → Prop
  | readOnly (hprotected : path.text ∈ p.store.readOnly) :
      BodyOutcome path body p (.error (.storage (.readOnly path))) p
  | written (hfree : path.text ∉ p.store.readOnly) :
      BodyOutcome path body p (.ok ())
        (p.wrote (if p.store.holds path then .overwritten else .added) path body [.wrote path])

theorem writeBody_outcome {path : Path} {body : Text} {a : Except Failure Unit}
    (h : writeBody path body p = (a, q)) : BodyOutcome path body p a q := by
  have hwrite : ∀ m : Memory, Storage.write m path body = m.write path body := fun _ => rfl
  by_cases hmem : path.text ∈ p.store.readOnly
  · simp only [writeBody, hwrite, Memory.write_of_mem hmem, Prod.mk.injEq] at h
    obtain ⟨rfl, rfl⟩ := h
    exact .readOnly hmem
  · simp only [writeBody, hwrite, Memory.write_of_not_mem hmem, Prod.mk.injEq] at h
    obtain ⟨rfl, rfl⟩ := h
    exact .written hmem

/-- What an injection comes to. A path that leads to a directory is there and cannot be read. -/
inductive InjectOutcome (j : Injection) (path : Path) (p : Progress Memory) :
    Except Failure Bool → Progress Memory → Prop
  | noTarget (habsent : p.store.holds path = false) :
      InjectOutcome j path p (.error (.storage (.noTarget path))) p
  | notFound (hthere : p.store.holds path = true) (hfile : p.store.files.lookup path.text = none) :
      InjectOutcome j path p (.error (.storage (.notFound path))) p
  | satisfied {contents : Text} (hfile : p.store.files.lookup path.text = some contents)
      (hsat : j.isSatisfied (Text.unifyNewlines contents) = true) :
      InjectOutcome j path p (.ok false) p
  | readOnly {contents : Text} (hfile : p.store.files.lookup path.text = some contents)
      (hsat : j.isSatisfied (Text.unifyNewlines contents) = false)
      (hprotected : path.text ∈ p.store.readOnly) :
      InjectOutcome j path p (.error (.storage (.readOnly path)))
        { p with notes := p.notes ++ notesOf j }
  | patched {contents : Text} (hfile : p.store.files.lookup path.text = some contents)
      (hsat : j.isSatisfied (Text.unifyNewlines contents) = false)
      (hfree : path.text ∉ p.store.readOnly) :
      InjectOutcome j path p (.ok true)
        (p.wrote .injected path (j.apply (Text.unifyNewlines contents))
          (notesOf j ++ [.injected (j.placement.map fun q => Text.of q.key) path]))

theorem inject_outcome {j : Injection} {path : Path} {a : Except Failure Bool}
    (h : inject j path p = (a, q)) : InjectOutcome j path p a q := by
  have hholds : ∀ m : Memory, Storage.holds m path = m.holds path := fun _ => rfl
  have hread : ∀ m : Memory, Storage.read m path = m.read path := fun _ => rfl
  have hwrite : ∀ (m : Memory) c, Storage.write m path c = m.write path c := fun _ _ => rfl
  cases hthere : p.store.holds path with
  | false =>
    simp only [inject, hholds, hthere, Bool.not_false, if_true, Prod.mk.injEq] at h
    obtain ⟨rfl, rfl⟩ := h
    exact .noTarget hthere
  | true =>
    simp only [inject, hholds, hread, hwrite, hthere, Bool.not_true, Bool.false_eq_true, if_false,
      Memory.read] at h
    cases hfile : p.store.files.lookup path.text with
    | none =>
      simp only [hfile, Prod.mk.injEq] at h
      obtain ⟨rfl, rfl⟩ := h
      exact .notFound hthere hfile
    | some contents =>
      cases hsat : j.isSatisfied (Text.unifyNewlines contents) with
      | true =>
        simp only [hfile, hsat, if_true, Prod.mk.injEq] at h
        obtain ⟨rfl, rfl⟩ := h
        exact .satisfied hfile hsat
      | false =>
        simp only [hfile, hsat, Bool.false_eq_true, if_false] at h
        by_cases hmem : path.text ∈ p.store.readOnly
        · simp only [Memory.write_of_mem hmem, Prod.mk.injEq] at h
          obtain ⟨rfl, rfl⟩ := h
          exact .readOnly hfile hsat hmem
        · simp only [Memory.write_of_not_mem hmem, Prod.mk.injEq] at h
          obtain ⟨rfl, rfl⟩ := h
          rw [List.append_assoc]
          exact .patched hfile hsat hmem

/-- What an injection into a file that is there comes to. -/
theorem inject_of_lookup (j : Injection) {path : Path} {contents : Text}
    (hfile : p.store.files.lookup path.text = some contents) :
    inject j path p =
      if j.isSatisfied (Text.unifyNewlines contents) then (.ok false, p)
      else if path.text ∈ p.store.readOnly then
        (.error (.storage (.readOnly path)), { p with notes := p.notes ++ notesOf j })
      else (.ok true, p.wrote .injected path (j.apply (Text.unifyNewlines contents))
        (notesOf j ++ [.injected (j.placement.map fun q => Text.of q.key) path])) := by
  rcases hrun : inject j path p with ⟨a, q⟩
  cases inject_outcome hrun with
  | noTarget habsent =>
    exact absurd ((Memory.lookup_eq_none_of_holds habsent).symm.trans hfile) (by simp)
  | notFound hthere hnone => exact absurd (hnone.symm.trans hfile) (by simp)
  | satisfied hfile' hsat =>
    obtain rfl := Option.some.inj (hfile.symm.trans hfile')
    rw [hsat, if_pos rfl]
  | readOnly hfile' hsat hprotected =>
    obtain rfl := Option.some.inj (hfile.symm.trans hfile')
    rw [hsat, if_neg Bool.false_ne_true, if_pos hprotected]
  | patched hfile' hsat hfree =>
    obtain rfl := Option.some.inj (hfile.symm.trans hfile')
    rw [hsat, if_neg Bool.false_ne_true, if_neg hfree]

/-! ### Skipping -/

/-- A pair is skipped when its target is there, or when a pattern that is not empty matches. -/
theorem isSkipped_iff {d : Directive} {m : Memory} :
    isSkipped wd d m = true ↔
      (d.skipIfExists = true ∧ m.holds (resolve wd d.target) = true) ∨
        ∃ pattern ∈ d.skipIfGlob, pattern ≠ [] ∧
          ∃ key ∈ m.keys, Glob.isMatch (resolve wd pattern).text key = true := by
  have hholds : ∀ path, Storage.holds m path = m.holds path := fun _ => rfl
  have hglob : ∀ pattern, Storage.glob m pattern = m.glob pattern := fun _ => rfl
  rw [isSkipped, Bool.or_eq_true, Bool.and_eq_true, hholds]
  cases d.skipIfGlob with
  | none => simp
  | some pattern => simp [hglob, ← Memory.glob_text_ne_nil_iff]

/-- What is skipped is skipped ever after: files are only added. -/
theorem isSkipped_mono {d : Directive} {m m' : Memory} (hkeys : m.keys ⊆ m'.keys)
    (h : isSkipped wd d m = true) : isSkipped wd d m' = true := by
  rw [isSkipped_iff] at h ⊢
  rcases h with ⟨hexists, hthere⟩ | ⟨pattern, hpattern, hne, key, hkey, hmatch⟩
  · exact Or.inl ⟨hexists, Memory.holds_mono hkeys hthere⟩
  · exact Or.inr ⟨pattern, hpattern, hne, key, hkeys hkey, hmatch⟩

/-- Whether a pair is skipped depends on the files alone. -/
theorem isSkipped_congr {d : Directive} {m m' : Memory} (hfiles : m.files = m'.files) :
    isSkipped wd d m = isSkipped wd d m' := by
  have hkeys : m.keys = m'.keys := by rw [Memory.keys, hfiles, Memory.keys]
  rw [Bool.eq_iff_iff]
  exact ⟨isSkipped_mono (hkeys ▸ List.Subset.refl _), isSkipped_mono (hkeys ▸ List.Subset.refl _)⟩

/-! ### Steps -/

/-- One thing that a run does. Only a file that is not there can be added. -/
inductive Step : Progress Memory → Progress Memory → Prop
  | skip (p : Progress Memory) (path : Path) :
      Step p { p with events := p.events ++ [⟨.skipped, path⟩] }
  | write {p : Progress Memory} {kind : EventKind} {path : Path} (contents : Text)
      (notes : List Note) (hkind : kind ≠ .skipped)
      (hnew : kind = .added → p.store.holds path = false) :
      Step p (p.wrote kind path contents notes)
  | note (p : Progress Memory) (notes : List Note) : Step p { p with notes := notes }

/-- What a run does, one thing after another. -/
abbrev Steps : Progress Memory → Progress Memory → Prop := Relation.ReflTransGen Step

theorem steps_writeBody {path : Path} {body : Text} {a : Except Failure Unit}
    (h : writeBody path body p = (a, q)) : Steps p q := by
  cases writeBody_outcome h with
  | readOnly => exact .refl
  | written =>
    refine .single (.write body _ ?_ ?_)
    · split <;> decide
    · cases p.store.holds path <;> simp

theorem steps_inject {j : Injection} {path : Path} {a : Except Failure Bool}
    (h : inject j path p = (a, q)) : Steps p q := by
  cases inject_outcome h with
  | noTarget | notFound | satisfied => exact .refl
  | readOnly => exact .single (.note p _)
  | patched => exact .single (.write _ _ (by decide) (by simp))

theorem steps_injectAll {js : List Injection} {a : Except Failure Unit}
    (h : injectAll wd js p = (a, q)) : Steps p q := by
  induction js generalizing p with
  | nil =>
    obtain ⟨rfl, rfl⟩ : .ok () = a ∧ p = q := by simpa using h
    exact .refl
  | cons j js ih =>
    cases a with
    | ok =>
      obtain ⟨b, p', hj, hrest⟩ := injectAll_cons_eq_ok_iff.mp h
      exact (steps_inject hj).trans (ih hrest)
    | error e =>
      rcases injectAll_cons_eq_error_iff.mp h with hj | ⟨b, p', hj, hrest⟩
      · exact steps_inject hj
      · exact (steps_inject hj).trans (ih hrest)

theorem steps_pair {d : Directive} {body : Text} {a : Except Failure Result}
    (h : pair wd d body p = (a, q)) : Steps p q := by
  cases a with
  | ok r =>
    rcases pair_eq_ok_iff.mp h with ⟨-, -, rfl⟩ | ⟨-, -, p', hbody, hjs⟩
    · exact .single (.skip p _)
    · exact (steps_writeBody hbody).trans (steps_injectAll hjs)
  | error e =>
    obtain ⟨-, hbody | ⟨p', hbody, hjs⟩⟩ := pair_eq_error_iff.mp h
    · exact steps_writeBody hbody
    · exact (steps_writeBody hbody).trans (steps_injectAll hjs)

theorem steps_pairs {ps : List (Directive × Text)} {a : Except Failure (List Result)}
    (h : pairs wd ps p = (a, q)) : Steps p q := by
  induction ps generalizing p a with
  | nil =>
    obtain ⟨rfl, rfl⟩ : .ok [] = a ∧ p = q := by simpa using h
    exact .refl
  | cons x ps ih =>
    cases a with
    | ok results =>
      obtain ⟨r, p', rs, hpair, hrest, -⟩ := pairs_cons_eq_ok_iff.mp h
      exact (steps_pair hpair).trans (ih hrest)
    | error e =>
      rcases pairs_cons_eq_error_iff.mp h with hpair | ⟨r, p', hpair, hrest⟩
      · exact steps_pair hpair
      · exact (steps_pair hpair).trans (ih hrest)

/-- **A run is a sequence of steps**, whether or not it fails. -/
theorem steps_document {s : Text} {a : Except Failure Result}
    (h : document wd s p = (a, q)) : Steps p q := by
  cases a with
  | ok r =>
    obtain ⟨ps, results, -, hrun, -⟩ := document_eq_ok_iff.mp h
    exact steps_pairs hrun
  | error e =>
    rcases document_eq_error_iff.mp h with ⟨f, -, -, rfl⟩ | ⟨ps, -, hrun⟩
    · exact .refl
    · exact steps_pairs hrun

/-! ### What every step preserves -/

theorem Step.keys_subset (h : Step p q) : p.store.keys ⊆ q.store.keys := by
  cases h with
  | skip | note => exact List.Subset.refl _
  | write => exact Memory.keys_subset_written

theorem Steps.keys_subset (h : Steps p q) : p.store.keys ⊆ q.store.keys := by
  induction h with
  | refl => exact List.Subset.refl _
  | tail _ hstep ih => exact List.Subset.trans ih hstep.keys_subset

theorem Steps.readOnly_eq (h : Steps p q) : q.store.readOnly = p.store.readOnly := by
  induction h with
  | refl => rfl
  | tail _ hstep ih =>
    rw [← ih]
    cases hstep <;> rfl

end Run

end Scaffold
