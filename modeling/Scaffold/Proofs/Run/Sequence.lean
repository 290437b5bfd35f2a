import Scaffold.Run

/-!
# One after the other

A run is pairs in order, a pair is a body and its injections in order, and the first failure
ends everything. This file says what each of these does in terms of what it consists of, for any
place where files are kept. Nothing behind it opens the definitions again.

## Main results

* `Run.injectAll_cons_eq_ok_iff`, `Run.injectAll_cons_eq_error_iff`
* `Run.pair_eq_ok_iff`, `Run.pair_eq_error_iff`
* `Run.pairs_cons_eq_ok_iff`, `Run.pairs_cons_eq_error_iff`, `Run.snd_pairs_cons`
* `Run.pairs_append_of_ok`, `Run.pairs_append_of_error`, `Run.pairs_append_of_ok_of_error`
* `Run.document_eq_ok_iff`, `Run.document_eq_error_iff`
-/

namespace Scaffold

namespace Run

variable {σ : Type} [Storage σ] {wd : Option Path} {d : Directive} {body : Text}
  {p q : Progress σ} {e : Failure}

/-! ### Injections -/

@[simp] theorem injectAll_nil : injectAll wd [] p = (.ok (), p) := rfl

theorem injectAll_cons_eq_ok_iff {j : Injection} {js : List Injection} :
    injectAll wd (j :: js) p = (.ok (), q) ↔
      ∃ b p', inject j (resolve wd j.target) p = (.ok b, p') ∧
        injectAll wd js p' = (.ok (), q) := by
  rw [injectAll]
  rcases inject j (resolve wd j.target) p with ⟨_ | b, p'⟩
  · simp
  · constructor
    · exact fun h => ⟨b, p', rfl, h⟩
    · rintro ⟨_, _, ⟨⟩, h⟩
      exact h

theorem injectAll_cons_eq_error_iff {j : Injection} {js : List Injection} :
    injectAll wd (j :: js) p = (.error e, q) ↔
      inject j (resolve wd j.target) p = (.error e, q) ∨
        ∃ b p', inject j (resolve wd j.target) p = (.ok b, p') ∧
          injectAll wd js p' = (.error e, q) := by
  rw [injectAll]
  rcases inject j (resolve wd j.target) p with ⟨_ | b, p'⟩
  · simp
  · constructor
    · exact fun h => Or.inr ⟨b, p', rfl, h⟩
    · rintro (⟨⟨⟩⟩ | ⟨_, _, ⟨⟩, h⟩)
      exact h

/-! ### One pair -/

theorem pair_of_isSkipped (h : isSkipped wd d p.store = true) (body : Text) :
    pair wd d body p =
      (.ok .skipped, { p with events := p.events ++ [⟨.skipped, resolve wd d.target⟩] }) := by
  rw [pair, if_pos h]

theorem pair_eq_ok_iff {r : Result} :
    pair wd d body p = (.ok r, q) ↔
      (isSkipped wd d p.store = true ∧ r = .skipped ∧
        q = { p with events := p.events ++ [⟨.skipped, resolve wd d.target⟩] }) ∨
      (isSkipped wd d p.store = false ∧ r = .generated d.message ∧
        ∃ p', writeBody (resolve wd d.target) body p = (.ok (), p') ∧
          injectAll wd d.injections p' = (.ok (), q)) := by
  rw [pair]
  cases isSkipped wd d p.store with
  | true => simp [eq_comm]
  | false =>
    rcases writeBody (resolve wd d.target) body p with ⟨_ | _, p'⟩
    · simp
    · rcases h : injectAll wd d.injections p' with ⟨_ | _, p''⟩ <;> simp [h, eq_comm]

theorem pair_eq_error_iff :
    pair wd d body p = (.error e, q) ↔
      isSkipped wd d p.store = false ∧
        (writeBody (resolve wd d.target) body p = (.error e, q) ∨
          ∃ p', writeBody (resolve wd d.target) body p = (.ok (), p') ∧
            injectAll wd d.injections p' = (.error e, q)) := by
  rw [pair]
  cases isSkipped wd d p.store with
  | true => simp
  | false =>
    rcases writeBody (resolve wd d.target) body p with ⟨_ | _, p'⟩
    · simp
    · rcases h : injectAll wd d.injections p' with ⟨_ | _, p''⟩ <;> simp [h]

/-! ### Pairs -/

@[simp] theorem pairs_nil : pairs wd [] p = (.ok [], p) := rfl

theorem pairs_cons_eq_ok_iff {ps : List (Directive × Text)} {results : List Result} :
    pairs wd ((d, body) :: ps) p = (.ok results, q) ↔
      ∃ r p' rs, pair wd d body p = (.ok r, p') ∧ pairs wd ps p' = (.ok rs, q) ∧
        results = r :: rs := by
  rw [pairs]
  rcases pair wd d body p with ⟨_ | r, p'⟩
  · simp
  · dsimp only
    constructor
    · rcases h : pairs wd ps p' with ⟨_ | rs, p''⟩
      · rintro ⟨⟩
      · rintro ⟨⟩
        exact ⟨r, p', rs, rfl, h, rfl⟩
    · rintro ⟨_, _, rs, ⟨⟩, h, rfl⟩
      simp [h]

theorem pairs_cons_eq_error_iff {ps : List (Directive × Text)} :
    pairs wd ((d, body) :: ps) p = (.error e, q) ↔
      pair wd d body p = (.error e, q) ∨
        ∃ r p', pair wd d body p = (.ok r, p') ∧ pairs wd ps p' = (.error e, q) := by
  rw [pairs]
  rcases pair wd d body p with ⟨_ | r, p'⟩
  · simp
  · dsimp only
    constructor
    · rcases h : pairs wd ps p' with ⟨_ | rs, p''⟩
      · rintro ⟨⟩
        exact Or.inr ⟨r, p', rfl, h⟩
      · rintro ⟨⟩
    · rintro (⟨⟨⟩⟩ | ⟨_, _, ⟨⟩, h⟩)
      simp [h]

/-- What pairs leave behind, whether or not they fail: a pair that fails has the last word. -/
theorem snd_pairs_cons (ps : List (Directive × Text)) :
    (pairs wd ((d, body) :: ps) p).2 =
      match pair wd d body p with
      | (.ok _, q) => (pairs wd ps q).2
      | (.error _, q) => q := by
  rw [pairs]
  rcases pair wd d body p with ⟨_ | r, q⟩
  · rfl
  · rcases h : pairs wd ps q with ⟨_ | rs, q'⟩ <;> simp [h]

/-- Pairs that run to their end leave the rest to run from where they left. -/
theorem pairs_append_of_ok {ps more : List (Directive × Text)} {results rs : List Result}
    {p' : Progress σ} (h : pairs wd ps p = (.ok results, p'))
    (hmore : pairs wd more p' = (.ok rs, q)) :
    pairs wd (ps ++ more) p = (.ok (results ++ rs), q) := by
  induction ps generalizing p results with
  | nil =>
    obtain ⟨rfl, rfl⟩ : [] = results ∧ p = p' := by simpa using h
    exact hmore
  | cons x ps ih =>
    obtain ⟨r, p₁, rs₁, hpair, hrest, rfl⟩ := pairs_cons_eq_ok_iff.mp h
    exact pairs_cons_eq_ok_iff.mpr ⟨r, p₁, rs₁ ++ rs, hpair, ih hrest, rfl⟩

/-- Pairs that fail leave nothing to be run behind them. -/
theorem pairs_append_of_error {ps more : List (Directive × Text)}
    (h : pairs wd ps p = (.error e, q)) : pairs wd (ps ++ more) p = (.error e, q) := by
  induction ps generalizing p with
  | nil => simp at h
  | cons x ps ih =>
    rcases pairs_cons_eq_error_iff.mp h with hpair | ⟨r, p₁, hpair, hrest⟩
    · exact pairs_cons_eq_error_iff.mpr (Or.inl hpair)
    · exact pairs_cons_eq_error_iff.mpr (Or.inr ⟨r, p₁, hpair, ih hrest⟩)

/-- Pairs that run to their end leave the rest to fail where it fails. -/
theorem pairs_append_of_ok_of_error {ps more : List (Directive × Text)} {results : List Result}
    {p' : Progress σ} (h : pairs wd ps p = (.ok results, p'))
    (hmore : pairs wd more p' = (.error e, q)) : pairs wd (ps ++ more) p = (.error e, q) := by
  induction ps generalizing p results with
  | nil =>
    obtain ⟨rfl, rfl⟩ : [] = results ∧ p = p' := by simpa using h
    exact hmore
  | cons x ps ih =>
    obtain ⟨r, p₁, rs₁, hpair, hrest, rfl⟩ := pairs_cons_eq_ok_iff.mp h
    exact pairs_cons_eq_error_iff.mpr (Or.inr ⟨r, p₁, hpair, ih hrest⟩)

/-- Pairs that are all skipped are reported, and that is all. -/
theorem pairs_of_isSkipped {ps : List (Directive × Text)}
    (h : ∀ x ∈ ps, isSkipped wd x.1 p.store = true) :
    pairs wd ps p = (.ok (ps.map fun _ => .skipped),
      { p with events := p.events ++ ps.map fun x => ⟨.skipped, resolve wd x.1.target⟩ }) := by
  induction ps generalizing p with
  | nil => simp
  | cons x ps ih =>
    have hrest := ih (p := { p with events := p.events ++ [⟨.skipped, resolve wd x.1.target⟩] })
      fun y hy => h y (List.mem_cons_of_mem _ hy)
    refine pairs_cons_eq_ok_iff.mpr ⟨_, _, _, pair_of_isSkipped (h x List.mem_cons_self) _, ?_, rfl⟩
    rw [hrest, List.append_assoc]
    rfl

/-- The pairs that a run writes, which are those it does not skip. -/
def writtenPairs (wd : Option Path) :
    List (Directive × Text) → Progress σ → List (Directive × Text)
  | [], _ => []
  | (d, body) :: ps, p =>
    let rest := writtenPairs wd ps (pair wd d body p).2
    if isSkipped wd d p.store then rest else (d, body) :: rest

theorem writtenPairs_cons_of_eq {a : Except Failure Result} (h : pair wd d body p = (a, q))
    (ps : List (Directive × Text)) :
    writtenPairs wd ((d, body) :: ps) p =
      if isSkipped wd d p.store then writtenPairs wd ps q
      else (d, body) :: writtenPairs wd ps q := by
  rw [writtenPairs, h]

/-! ### Documents -/

theorem document_eq_ok_iff {s : Text} {r : Result} :
    document wd s p = (.ok r, q) ↔
      ∃ ps results, Document.parse s = .ok ps ∧ pairs wd ps p = (.ok results, q) ∧
        r = merge results := by
  rw [document]
  rcases Document.parse s with _ | ps
  · simp
  · dsimp only
    constructor
    · rcases h : pairs wd ps p with ⟨_ | results, p'⟩
      · rintro ⟨⟩
      · rintro ⟨⟩
        exact ⟨ps, results, rfl, h, rfl⟩
    · rintro ⟨_, results, ⟨⟩, h, rfl⟩
      simp [h]

theorem document_of_pairs {s : Text} {ps : List (Directive × Text)} {results : List Result}
    (hparse : Document.parse s = .ok ps) (hrun : pairs wd ps p = (.ok results, q)) :
    document wd s p = (.ok (merge results), q) :=
  document_eq_ok_iff.mpr ⟨ps, results, hparse, hrun, rfl⟩

/-- A document fails because it cannot be read, and then nothing is done, or because one of its
pairs fails. -/
theorem document_eq_error_iff {s : Text} :
    document wd s p = (.error e, q) ↔
      (∃ f, Document.parse s = .error f ∧ e = .document f ∧ q = p) ∨
        ∃ ps, Document.parse s = .ok ps ∧ pairs wd ps p = (.error e, q) := by
  rw [document]
  rcases Document.parse s with f | ps
  · simp [eq_comm]
  · rcases h : pairs wd ps p with ⟨_ | results, p'⟩ <;> simp [h]

end Run

end Scaffold
