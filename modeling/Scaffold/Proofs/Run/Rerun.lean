import Scaffold.Proofs.Run.Memory
import Mathlib.Control.Monad.Basic

/-!
# Running a document again

Two reasons why a document can be run again without harm.

The first is that every directive skips itself once its target is there. Then the second run
does nothing but report, whatever the injections are, because a pair that is skipped never gets
to them. The argument needs only that files are never taken away: pairs may share targets, and
the pattern of one may match what another one wrote.

The second is that every injection is guarded. Bodies may then be written again, and what is
written is what is there: nothing but the pair itself writes its file, and no injection of the
second run gets past its guard. `Settled` is what a pair is in after the first run, and it is
kept by a second run because that changes no file.

## Main results

* `Run.document_twice_of_skipsItself` — directives that skip themselves
* `Run.document_twice_files_eq` — guarded injections
-/

namespace Scaffold

namespace Run

variable {wd : Option Path} {d : Directive} {body : Text} {ps : List (Directive × Text)}
  {p q : Progress Memory}

/-! ### Directives that skip themselves -/

/-- A directive is skipped as soon as its own target is there. -/
def SkipsItself (wd : Option Path) (d : Directive) : Prop :=
  d.skipIfExists = true ∨
    ∃ pattern ∈ d.skipIfGlob, pattern ≠ [] ∧
      Glob.isMatch (resolve wd pattern).text (keyOf wd d.target) = true

instance : Decidable (SkipsItself wd d) := inferInstanceAs (Decidable (_ ∨ _))

theorem SkipsItself.isSkipped (h : SkipsItself wd d) {m : Memory}
    (hkey : keyOf wd d.target ∈ m.keys) : isSkipped wd d m = true := by
  rw [isSkipped_iff]
  rcases h with hexists | ⟨pattern, hpattern, hne, hmatch⟩
  · exact Or.inl ⟨hexists, Memory.holds_of_mem_keys hkey⟩
  · exact Or.inr ⟨pattern, hpattern, hne, _, hkey, hmatch⟩

/-- A pair that ran is skipped from then on: it was skipped already, or its target is there. -/
theorem SkipsItself.isSkipped_of_pair (h : SkipsItself wd d) {r : Result}
    (hpair : pair wd d body p = (.ok r, q)) : Run.isSkipped wd d q.store = true := by
  rcases pair_eq_ok_iff.mp hpair with ⟨hskip, -, rfl⟩ | ⟨-, -, p', hbody, hjs⟩
  · exact hskip
  · apply h.isSkipped
    cases writeBody_outcome hbody
    exact (steps_injectAll hjs).keys_subset (Memory.mem_keys_written.mpr (Or.inl rfl))

theorem isSkipped_of_pairs (hself : ∀ x ∈ ps, SkipsItself wd x.1) {results : List Result}
    (hrun : pairs wd ps p = (.ok results, q)) : ∀ x ∈ ps, isSkipped wd x.1 q.store = true := by
  induction ps generalizing p results with
  | nil => simp
  | cons y ps ih =>
    obtain ⟨r, p', rs, hpair, hrest, -⟩ := pairs_cons_eq_ok_iff.mp hrun
    rw [List.forall_mem_cons] at hself ⊢
    refine ⟨?_, ih hself.2 hrest⟩
    have hnow : isSkipped wd y.1 p'.store = true := hself.1.isSkipped_of_pair hpair
    exact isSkipped_mono (steps_pairs hrest).keys_subset hnow

theorem merge_map_skipped (ps : List (Directive × Text)) :
    merge (ps.map fun _ => .skipped) = .generated (some []) := by
  have hnone : (ps.map fun _ => Result.skipped).filterMap Result.message? = [] := by
    simp [Result.message?]
  rw [merge, hnone]
  rfl

/-- **A document whose directives skip themselves does nothing the second time.** The store is
the one that the first run left, with its record of writes kept or cleared. -/
theorem document_twice_of_skipsItself {s : Text} {r : Result} {p₁ p₂ : Progress Memory}
    (hparse : Document.parse s = .ok ps) (hself : ∀ x ∈ ps, SkipsItself wd x.1)
    (hrun : document wd s p = (.ok r, p₁))
    (hstore : p₂.store.forgetWrites = p₁.store.forgetWrites) :
    document wd s p₂ = (.ok (.generated (some [])),
      { p₂ with events := p₂.events ++ ps.map fun x => ⟨.skipped, resolve wd x.1.target⟩ }) := by
  obtain ⟨ps', results, hparse', hpairs, -⟩ := document_eq_ok_iff.mp hrun
  obtain rfl : ps = ps' := by simpa [hparse] using hparse'
  have hfiles := (Memory.forgetWrites_eq_iff.mp hstore).1
  have hskip : ∀ x ∈ ps, isSkipped wd x.1 p₂.store = true := fun x hx =>
    isSkipped_congr hfiles ▸ isSkipped_of_pairs hself hpairs x hx
  rw [document_of_pairs hparse (pairs_of_isSkipped hskip), merge_map_skipped]

/-- A pair that is skipped by its target, whose injection has no guard, and a pair that is skipped
by a pattern. -/
def selfSkippingText : Text :=
  Text.unlines <| List.map Text.of
    ["---", "to: a/b", "skip_exists: true", "injections:", "- into: m", "  append: true", "---",
      "x", "---", "to: c2", "skip_glob: c*", "---", "y"]

/-- The pairs of `selfSkippingText`. -/
def selfSkippingPairs : List (Directive × Text) :=
  [(⟨['a', '/', 'b'], true, none, none, [⟨['m'], [], false, none, some .append⟩]⟩, ['x']),
    (⟨['c', '2'], false, some ['c', '*'], none, []⟩, ['y'])]

theorem document_twice_of_skipsItself_pairs :
    let wd := some (Path.ofText ['w'])
    let start : Progress Memory := ⟨⟨[(['w', '/', 'm'], ['0'])], [], []⟩, [], []⟩
    let once := (document wd selfSkippingText start).2
    once.store.writes.length = 3 ∧
      document wd selfSkippingText once = (.ok (.generated (some [])),
        { once with events := once.events ++
            [⟨.skipped, Path.ofText (Text.of "w/a/b")⟩,
              ⟨.skipped, Path.ofText (Text.of "w/c2")⟩] }) := by
  intro wd start once
  have hparse : Document.parse selfSkippingText = .ok selfSkippingPairs := by decide +kernel
  have hpairs : pairs wd selfSkippingPairs start =
      (.ok [.generated none, .generated none], (pairs wd selfSkippingPairs start).2) := by
    decide +kernel
  have hrun : document wd selfSkippingText start =
      (.ok (merge [.generated none, .generated none]), (pairs wd selfSkippingPairs start).2) :=
    document_of_pairs hparse hpairs
  have honce : once = (pairs wd selfSkippingPairs start).2 := congrArg Prod.snd hrun
  have hself : ∀ x ∈ selfSkippingPairs, SkipsItself wd x.1 := by decide +kernel
  rw [honce]
  exact ⟨by decide +kernel, document_twice_of_skipsItself hparse hself hrun rfl⟩

/-! ### Guarded injections -/

/-- The file that an injection is for is there and holds already what the injection is for. -/
def IsGuarded (wd : Option Path) (m : Memory) (j : Injection) : Prop :=
  ∃ contents ∈ m.files.lookup (keyOf wd j.target),
    j.isSatisfied (Text.unifyNewlines contents) = true

instance {m : Memory} {j : Injection} : Decidable (IsGuarded wd m j) :=
  inferInstanceAs (Decidable (∃ contents ∈ _, _))

theorem IsGuarded.congr {m m' : Memory} {j : Injection} (hfiles : m'.files = m.files)
    (h : IsGuarded wd m j) : IsGuarded wd m' j := by
  rwa [IsGuarded, hfiles]

/-- A pair that can be run without any file changing: it is skipped, or it writes what is there
and its injections are guarded. -/
def Settled (wd : Option Path) (m : Memory) (x : Directive × Text) : Prop :=
  isSkipped wd x.1 m = true ∨
    (m.files.lookup (keyOf wd x.1.target) = some x.2 ∧ keyOf wd x.1.target ∉ m.readOnly ∧
      ∀ j ∈ x.1.injections, IsGuarded wd m j)

theorem Settled.congr {m m' : Memory} {x : Directive × Text} (hfiles : m'.files = m.files)
    (hreadOnly : m'.readOnly = m.readOnly) (h : Settled wd m x) : Settled wd m' x := by
  rw [Settled, isSkipped_congr hfiles, hfiles, hreadOnly]
  rcases h with hskip | ⟨hfile, hfree, hguard⟩
  · exact Or.inl hskip
  · exact Or.inr ⟨hfile, hfree, fun j hj => (hguard j hj).congr hfiles⟩

/-! #### What the first run leaves -/

/-- Injections leave the files alone that they are not for. -/
theorem lookup_injectAll {js : List Injection} {key : Text}
    (hkey : ∀ j ∈ js, keyOf wd j.target ≠ key) (h : injectAll wd js p = (.ok (), q)) :
    q.store.files.lookup key = p.store.files.lookup key := by
  induction js generalizing p with
  | nil =>
    obtain rfl : p = q := by simpa using h
    rfl
  | cons j js ih =>
    rw [List.forall_mem_cons] at hkey
    obtain ⟨b, p', hj, hrest⟩ := injectAll_cons_eq_ok_iff.mp h
    rw [ih hkey.2 hrest]
    cases inject_outcome hj with
    | satisfied => rfl
    | patched => exact Memory.lookup_put_of_ne (Ne.symm hkey.1) _ _

/-- Pairs leave the files alone that neither they nor their injections are for. -/
theorem lookup_pairs {key : Text} (htarget : ∀ x ∈ ps, keyOf wd x.1.target ≠ key)
    (hinto : ∀ x ∈ ps, ∀ j ∈ x.1.injections, keyOf wd j.target ≠ key) {results : List Result}
    (h : pairs wd ps p = (.ok results, q)) :
    q.store.files.lookup key = p.store.files.lookup key := by
  induction ps generalizing p results with
  | nil =>
    obtain ⟨-, rfl⟩ : [] = results ∧ p = q := by simpa using h
    rfl
  | cons x ps ih =>
    rw [List.forall_mem_cons] at htarget hinto
    obtain ⟨r, p', rs, hpair, hrest, -⟩ := pairs_cons_eq_ok_iff.mp h
    rw [ih htarget.2 hinto.2 hrest]
    rcases pair_eq_ok_iff.mp hpair with ⟨-, -, rfl⟩ | ⟨-, -, p₁, hbody, hjs⟩
    · rfl
    · rw [lookup_injectAll hinto.1 hjs]
      cases writeBody_outcome hbody
      exact Memory.lookup_put_of_ne (Ne.symm htarget.1) _ _

/-- What a pair that ran has made of its own file, which no injection of its own is for. -/
theorem lookup_pair_self (hinto : ∀ j ∈ d.injections, keyOf wd j.target ≠ keyOf wd d.target)
    {r : Result} (hskip : isSkipped wd d p.store = false) (h : pair wd d body p = (.ok r, q)) :
    q.store.files.lookup (keyOf wd d.target) = some body ∧
      keyOf wd d.target ∉ p.store.readOnly := by
  rcases pair_eq_ok_iff.mp h with ⟨hskip', -, -⟩ | ⟨-, -, p', hbody, hjs⟩
  · exact absurd hskip' (by simp [hskip])
  · rw [lookup_injectAll hinto hjs]
    cases writeBody_outcome hbody with
    | written hfree => exact ⟨Memory.lookup_put_self _ _ _, hfree⟩

/-- **The first run settles every pair**, when no two pairs have the same target, no injection
is for the target of a pair, and the injections of the pairs that were written are guarded by
what the run leaves. -/
theorem settled_of_pairs {results : List Result} (hrun : pairs wd ps p = (.ok results, q))
    (hdistinct : (ps.map fun x => keyOf wd x.1.target).Nodup)
    (hapart : ∀ x ∈ ps, ∀ j ∈ x.1.injections, ∀ y ∈ ps, keyOf wd j.target ≠ keyOf wd y.1.target)
    (hguard : ∀ x ∈ writtenPairs wd ps p, ∀ j ∈ x.1.injections, IsGuarded wd q.store j) :
    ∀ x ∈ ps, Settled wd q.store x := by
  induction ps generalizing p results with
  | nil => simp
  | cons x ps ih =>
    obtain ⟨d, body⟩ := x
    obtain ⟨r, p', rs, hpair, hrest, -⟩ := pairs_cons_eq_ok_iff.mp hrun
    rw [List.map_cons, List.nodup_cons, List.mem_map] at hdistinct
    have hapart' : ∀ x ∈ ps, ∀ j ∈ x.1.injections, ∀ y ∈ ps,
        keyOf wd j.target ≠ keyOf wd y.1.target := fun x hx j hj y hy =>
      hapart x (List.mem_cons_of_mem _ hx) j hj y (List.mem_cons_of_mem _ hy)
    rw [writtenPairs_cons_of_eq hpair] at hguard
    rw [List.forall_mem_cons]
    cases hskip : isSkipped wd d p.store with
    | true =>
      rw [hskip, if_pos rfl] at hguard
      have hlater := isSkipped_mono (steps_pairs hrun).keys_subset hskip
      exact ⟨Or.inl hlater, ih hrest hdistinct.2 hapart' hguard⟩
    | false =>
      rw [hskip, if_neg Bool.false_ne_true, List.forall_mem_cons] at hguard
      -- no one but this pair writes its file: not its own injections, and not the pairs behind it
      have hothers : ∀ y ∈ ps, keyOf wd y.1.target ≠ keyOf wd d.target := fun y hy heq =>
        hdistinct.1 ⟨y, hy, heq⟩
      have hinto : ∀ y ∈ (d, body) :: ps, ∀ j ∈ y.1.injections,
          keyOf wd j.target ≠ keyOf wd d.target := fun y hy j hj =>
        hapart y hy j hj (d, body) List.mem_cons_self
      rw [List.forall_mem_cons] at hinto
      obtain ⟨hfile, hfree⟩ := lookup_pair_self hinto.1 hskip hpair
      refine ⟨Or.inr ⟨?_, ?_, hguard.1⟩, ih hrest hdistinct.2 hapart' hguard.2⟩
      · rw [lookup_pairs hothers hinto.2 hrest, hfile]
      · rwa [(steps_pairs hrun).readOnly_eq]

/-! #### What the second run changes -/

theorem injectAll_of_isGuarded {js : List Injection}
    (h : ∀ j ∈ js, IsGuarded wd p.store j) : injectAll wd js p = (.ok (), p) := by
  induction js with
  | nil => rfl
  | cons j js ih =>
    rw [List.forall_mem_cons] at h
    obtain ⟨⟨contents, hmem, hsat⟩, hrest⟩ := h
    have hfile := Option.mem_def.mp hmem
    refine injectAll_cons_eq_ok_iff.mpr ⟨false, p, ?_, ih hrest⟩
    rw [inject_of_lookup j hfile, if_pos hsat]

theorem writeBody_of_lookup {path : Path} (hfile : p.store.files.lookup path.text = some body)
    (hfree : path.text ∉ p.store.readOnly) :
    ∃ q, writeBody path body p = (.ok (), q) ∧ q.store.files = p.store.files ∧
      q.store.readOnly = p.store.readOnly := by
  rcases h : writeBody path body p with ⟨a, q⟩
  cases writeBody_outcome h with
  | readOnly hprotected => exact absurd hprotected hfree
  | written => exact ⟨_, rfl, Memory.put_of_lookup hfile, rfl⟩

/-- A settled pair runs, and no file changes. -/
theorem pair_of_settled (h : Settled wd p.store (d, body)) :
    ∃ r q, pair wd d body p = (.ok r, q) ∧ q.store.files = p.store.files ∧
      q.store.readOnly = p.store.readOnly := by
  cases hskip : isSkipped wd d p.store with
  | true => exact ⟨_, _, pair_of_isSkipped hskip body, rfl, rfl⟩
  | false =>
    obtain ⟨hfile, hfree, hguard⟩ := h.resolve_left (by simp [hskip])
    obtain ⟨q, hbody, hfiles, hreadOnly⟩ := writeBody_of_lookup hfile hfree
    have hinject := injectAll_of_isGuarded fun j hj => (hguard j hj).congr hfiles
    exact ⟨_, q, pair_eq_ok_iff.mpr (Or.inr ⟨hskip, rfl, q, hbody, hinject⟩), hfiles, hreadOnly⟩

/-- Settled pairs run one after another, and no file changes: each leaves the others settled. -/
theorem pairs_of_settled (h : ∀ x ∈ ps, Settled wd p.store x) :
    ∃ results q, pairs wd ps p = (.ok results, q) ∧ q.store.files = p.store.files := by
  induction ps generalizing p with
  | nil => exact ⟨[], p, rfl, rfl⟩
  | cons x ps ih =>
    rw [List.forall_mem_cons] at h
    obtain ⟨r, p', hpair, hfiles, hreadOnly⟩ := pair_of_settled h.1
    obtain ⟨results, q, hrest, hfiles'⟩ := ih fun y hy => (h.2 y hy).congr hfiles hreadOnly
    exact ⟨r :: results, q, pairs_cons_eq_ok_iff.mpr ⟨r, p', results, hpair, hrest, rfl⟩,
      hfiles'.trans hfiles⟩

/-- **A document whose injections are guarded can be run again, and no file changes.** Pairs may
be skipped or written, and a pair that was written may be skipped the second time. -/
theorem document_twice_files_eq {s : Text} {r : Result} {p₁ p₂ : Progress Memory}
    (hparse : Document.parse s = .ok ps)
    (hdistinct : (ps.map fun x => keyOf wd x.1.target).Nodup)
    (hapart : ∀ x ∈ ps, ∀ j ∈ x.1.injections, ∀ y ∈ ps, keyOf wd j.target ≠ keyOf wd y.1.target)
    (hrun : document wd s p = (.ok r, p₁))
    (hguard : ∀ x ∈ writtenPairs wd ps p, ∀ j ∈ x.1.injections, IsGuarded wd p₁.store j)
    (hstore : p₂.store.forgetWrites = p₁.store.forgetWrites) :
    ∃ r₂ p₃, document wd s p₂ = (.ok r₂, p₃) ∧ p₃.store.files = p₁.store.files := by
  obtain ⟨ps', results, hparse', hpairs, -⟩ := document_eq_ok_iff.mp hrun
  obtain rfl : ps = ps' := by simpa [hparse] using hparse'
  obtain ⟨hfiles, hreadOnly⟩ := Memory.forgetWrites_eq_iff.mp hstore
  have hsettled : ∀ x ∈ ps, Settled wd p₂.store x := fun x hx =>
    (settled_of_pairs hpairs hdistinct hapart hguard x hx).congr hfiles hreadOnly
  obtain ⟨results₂, p₃, hagain, hfiles'⟩ := pairs_of_settled hsettled
  exact ⟨merge results₂, p₃, document_of_pairs hparse hagain, hfiles'.trans hfiles⟩

/-- A pair that is written every time, whose injection is guarded, and a pair that is written
once. -/
def guardedText : Text :=
  Text.unlines <| List.map Text.of
    ["---", "to: a", "injections:", "- into: m", "  append: true", "  content: b", "  skip_if: b",
      "---", "x", "---", "to: c", "skip_exists: true", "---", "y"]

/-- The pairs of `guardedText`. -/
def guardedPairs : List (Directive × Text) :=
  [(⟨['a'], false, none, none,
      [⟨['m'], ['b'], false, some ⟨['b'], .none, .code 98⟩, some .append⟩]⟩, ['x']),
    (⟨['c'], true, none, none, []⟩, ['y'])]

theorem document_twice_files_eq_pairs :
    let start : Progress Memory := ⟨⟨[(['m'], ['0'])], [], []⟩, [], []⟩
    let once := (document none guardedText start).2
    once.store.files = [(['m'], ['0', '\n', 'b']), (['a'], ['x']), (['c'], ['y'])] ∧
      ∃ r twice, document none guardedText once = (.ok r, twice) ∧
        twice.store.files = once.store.files := by
  intro start once
  have hparse : Document.parse guardedText = .ok guardedPairs := by decide +kernel
  have hpairs : pairs none guardedPairs start =
      (.ok [.generated none, .generated none], (pairs none guardedPairs start).2) := by
    decide +kernel
  have hrun : document none guardedText start =
      (.ok (merge [.generated none, .generated none]), (pairs none guardedPairs start).2) :=
    document_of_pairs hparse hpairs
  have honce : once = (pairs none guardedPairs start).2 := congrArg Prod.snd hrun
  have hdistinct : (guardedPairs.map fun x => keyOf none x.1.target).Nodup := by decide +kernel
  have hapart : ∀ x ∈ guardedPairs, ∀ j ∈ x.1.injections, ∀ y ∈ guardedPairs,
      keyOf none j.target ≠ keyOf none y.1.target := by decide +kernel
  have hguard : ∀ x ∈ writtenPairs none guardedPairs start, ∀ j ∈ x.1.injections,
      IsGuarded none (pairs none guardedPairs start).2.store j := by decide +kernel
  rw [honce]
  exact ⟨by decide +kernel,
    document_twice_files_eq hparse hdistinct hapart hrun hguard rfl⟩

end Run

end Scaffold
