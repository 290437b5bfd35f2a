import Scaffold.Proofs.Run.Memory
import Mathlib.Control.Monad.Basic

/-!
# Where a run stops

A run that fails has done what comes before the failure and nothing else. Either the document
cannot be read, and nothing is done at all; or one operation fails, and then files, record of
writes and events are those of a run that succeeds, of a document that ends right there.

That document is the one that was run, cut behind a pair or behind an injection of a pair. A pair
that stops at its body leaves no trace of its own, so the cut is in front of it; a pair that stops
at an injection was written, so it stays, with the injections that came before.

## Main results

* `Run.injectAll_eq_error`, `Run.pairs_eq_error` — the operation that fails, in any storage
* `Run.pairs_stop` — the two ways for pairs in memory to stop
* `Run.document_stop` — the same for documents
-/

namespace Scaffold

namespace Run

/-! ### The operation that fails -/

section

variable {σ : Type} [Storage σ] {wd : Option Path} {p q : Progress σ} {e : Failure}

theorem injectAll_eq_error {js : List Injection} (h : injectAll wd js p = (.error e, q)) :
    ∃ done j rest p', js = done ++ j :: rest ∧ injectAll wd done p = (.ok (), p') ∧
      inject j (resolve wd j.target) p' = (.error e, q) := by
  induction js generalizing p with
  | nil => simp at h
  | cons j js ih =>
    rcases injectAll_cons_eq_error_iff.mp h with hj | ⟨b, p₁, hj, hrest⟩
    · exact ⟨[], j, js, p, rfl, rfl, hj⟩
    · obtain ⟨done, j', rest, p', rfl, hdone, hfail⟩ := ih hrest
      exact ⟨j :: done, j', rest, p', rfl, injectAll_cons_eq_ok_iff.mpr ⟨b, p₁, hj, hdone⟩, hfail⟩

theorem pairs_eq_error {ps : List (Directive × Text)} (h : pairs wd ps p = (.error e, q)) :
    ∃ before d body after results p', ps = before ++ (d, body) :: after ∧
      pairs wd before p = (.ok results, p') ∧ pair wd d body p' = (.error e, q) := by
  induction ps generalizing p with
  | nil => simp at h
  | cons x ps ih =>
    rcases pairs_cons_eq_error_iff.mp h with hpair | ⟨r, p₁, hpair, hrest⟩
    · exact ⟨[], x.1, x.2, ps, [], p, rfl, rfl, hpair⟩
    · obtain ⟨before, d, body, after, results, p', rfl, hbefore, hfail⟩ := ih hrest
      exact ⟨x :: before, d, body, after, r :: results, p', rfl,
        pairs_cons_eq_ok_iff.mpr ⟨r, p₁, results, hpair, hbefore, rfl⟩, hfail⟩

/-! ### What fails -/

theorem exists_storage_of_inject {j : Injection} {path : Path}
    (h : inject j path p = (.error e, q)) : ∃ f, e = .storage f := by
  rw [inject] at h
  cases hthere : Storage.holds p.store path with
  | false =>
    simp only [hthere, Bool.not_false, if_true, Prod.mk.injEq, Except.error.injEq] at h
    exact ⟨_, h.1.symm⟩
  | true =>
    rcases hread : Storage.read p.store path with f | contents
    · simp only [hthere, hread, Bool.not_true, Bool.false_eq_true, if_false, Prod.mk.injEq,
        Except.error.injEq] at h
      exact ⟨f, h.1.symm⟩
    · simp only [hthere, hread, Bool.not_true, Bool.false_eq_true, if_false] at h
      cases hsat : j.isSatisfied (Text.unifyNewlines contents) with
      | true => simp [hsat] at h
      | false =>
        rcases hw : Storage.write p.store path (j.apply (Text.unifyNewlines contents))
          with ⟨f | _, m⟩
        · simp only [hsat, hw, Bool.false_eq_true, if_false, Prod.mk.injEq,
            Except.error.injEq] at h
          exact ⟨f, h.1.symm⟩
        · simp [hsat, hw] at h

/-- Pairs fail where a file is read or written, and nowhere else. -/
theorem exists_storage_of_pairs {ps : List (Directive × Text)}
    (h : pairs wd ps p = (.error e, q)) : ∃ f, e = .storage f := by
  obtain ⟨before, d, body, after, results, p₁, -, -, hpair⟩ := pairs_eq_error h
  obtain ⟨-, hbody | ⟨p₂, -, hjs⟩⟩ := pair_eq_error_iff.mp hpair
  · rw [writeBody] at hbody
    rcases hw : Storage.write p₁.store (resolve wd d.target) body with ⟨f | _, m⟩
    · simp only [hw, Prod.mk.injEq, Except.error.injEq] at hbody
      exact ⟨f, hbody.1.symm⟩
    · simp [hw] at hbody
  · obtain ⟨_, j, _, p₃, -, -, hj⟩ := injectAll_eq_error hjs
    exact exists_storage_of_inject hj

end

variable {wd : Option Path} {ps : List (Directive × Text)} {p q : Progress Memory} {e : Failure}

/-! ### Failing in memory -/

theorem writeBody_eq_error {path : Path} {body : Text}
    (h : writeBody path body p = (.error e, q)) : e = .storage (.readOnly path) ∧ q = p := by
  cases writeBody_outcome h with
  | readOnly => exact ⟨rfl, rfl⟩

/-- An injection that fails names its own path, and adds to the log at most. -/
theorem inject_eq_error {j : Injection} {path : Path} (h : inject j path p = (.error e, q)) :
    ∃ f, e = .storage f ∧ f.path? = some path ∧ q.store = p.store ∧ q.events = p.events := by
  cases inject_outcome h <;> exact ⟨_, rfl, rfl, rfl, rfl⟩

/-- Running `ps` from `p` stops in `q` because a body cannot be written: what has run are the pairs
before it. -/
def StopsAtBody (wd : Option Path) (ps : List (Directive × Text)) (p q : Progress Memory)
    (f : Storage.Failure) : Prop :=
  ∃ before d body after results,
    ps = before ++ (d, body) :: after ∧
      pairs wd before p = (.ok results, q) ∧
      isSkipped wd d q.store = false ∧
      (writeBody (resolve wd d.target) body q).1 = .error (.storage f) ∧
      f = .readOnly (resolve wd d.target)

/-- Running `ps` from `p` stops in `q` because an injection fails: what has run are the pairs
before its own, the body of its own, and the injections before it. -/
def StopsAtInjection (wd : Option Path) (ps : List (Directive × Text)) (p q : Progress Memory)
    (f : Storage.Failure) : Prop :=
  ∃ before d body after done j rest results p',
    ps = before ++ (d, body) :: after ∧
      d.injections = done ++ j :: rest ∧
      pairs wd (before ++ [({ d with injections := done }, body)]) p =
        (.ok (results ++ [.generated d.message]), p') ∧
      (inject j (resolve wd j.target) p').1 = .error (.storage f) ∧
      f.path? = some (resolve wd j.target) ∧
      q.store = p'.store ∧ q.events = p'.events

/-- **Pairs that fail stop at a body or at an injection.** -/
theorem pairs_stop (h : pairs wd ps p = (.error e, q)) :
    ∃ f, e = .storage f ∧ (StopsAtBody wd ps p q f ∨ StopsAtInjection wd ps p q f) := by
  obtain ⟨before, d, body, after, results, p₁, hps, hbefore, hpair⟩ := pairs_eq_error h
  obtain ⟨hskip, hbody | ⟨p₂, hbody, hjs⟩⟩ := pair_eq_error_iff.mp hpair
  · obtain ⟨rfl, rfl⟩ := writeBody_eq_error hbody
    exact ⟨_, rfl, Or.inl ⟨before, d, body, after, results, hps, hbefore, hskip,
      congrArg Prod.fst hbody, rfl⟩⟩
  · obtain ⟨done, j, rest, p₃, hjs', hdone, hj⟩ := injectAll_eq_error hjs
    obtain ⟨f, rfl, hpath, hstore, hevents⟩ := inject_eq_error hj
    have hcut : pair wd { d with injections := done } body p₁ = (.ok (.generated d.message), p₃) :=
      pair_eq_ok_iff.mpr (Or.inr ⟨hskip, rfl, p₂, hbody, hdone⟩)
    have hlast : pairs wd [({ d with injections := done }, body)] p₁ =
        (.ok [.generated d.message], p₃) :=
      pairs_cons_eq_ok_iff.mpr ⟨_, p₃, [], hcut, rfl, rfl⟩
    exact ⟨f, rfl, Or.inr ⟨before, d, body, after, done, j, rest, results, p₃, hps, hjs',
      pairs_append_of_ok hbefore hlast, congrArg Prod.fst hj, hpath, hstore, hevents⟩⟩

/-- **A document that fails has done what comes before the failure.** It cannot be read and
nothing is done, or it stops at a body or at an injection. -/
theorem document_stop {s : Text} (h : document wd s p = (.error e, q)) :
    (∃ f, Document.parse s = .error f ∧ e = .document f ∧ q = p) ∨
      ∃ ps f, Document.parse s = .ok ps ∧ e = .storage f ∧
        (StopsAtBody wd ps p q f ∨ StopsAtInjection wd ps p q f) := by
  rcases document_eq_error_iff.mp h with hparse | ⟨ps, hparse, hrun⟩
  · exact Or.inl hparse
  · obtain ⟨f, hf, hstop⟩ := pairs_stop hrun
    exact Or.inr ⟨ps, f, hparse, hf, hstop⟩

/-- Three pairs, the second of which patches `a` and then a file that is not there. -/
def stoppingText : Text :=
  Text.unlines <| List.map Text.of
    ["---", "to: a", "---", "x", "---", "to: b", "injections:", "- into: a", "  append: true",
      "- into: n", "---", "y", "---", "to: c", "---", "z"]

theorem document_stop_missing :
    let start : Progress Memory := ⟨⟨[], [], []⟩, [], []⟩
    let final := (document none stoppingText start).2
    final.store.files = [(['a'], ['x', '\n']), (['b'], ['y'])] ∧
      ∃ ps f, Document.parse stoppingText = .ok ps ∧ f = .noTarget (Path.ofText ['n']) ∧
        (StopsAtBody none ps start final f ∨ StopsAtInjection none ps start final f) := by
  intro start final
  have hrun : document none stoppingText start =
      (.error (.storage (.noTarget (Path.ofText ['n']))), final) := by decide +kernel
  refine ⟨by decide +kernel, ?_⟩
  rcases document_stop hrun with ⟨f, -, hf, -⟩ | ⟨ps, f, hparse, hf, hstop⟩
  · exact absurd hf (by simp)
  · exact ⟨ps, f, hparse, by simpa using hf.symm, hstop⟩

end Run

end Scaffold
