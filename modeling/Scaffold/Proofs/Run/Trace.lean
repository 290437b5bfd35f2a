import Scaffold.Proofs.Run.Failure

/-!
# What a run reports

The events of a run, told twice. `Trace` tells them with the stores they belong to: whether a
pair is skipped, whether its target is new, and which of its injections patch something are all
decided in the store of that moment. `Report` tells only their form, and so it can also be said
of events that never came to be: those that a run would have reported had it not failed.

## Main results

* `Run.trace_of_pairs` — pairs that run to their end report a trace
* `Run.trace_of_pairs_error` — pairs that fail report the trace of a beginning of them
* `Run.Trace.report`, `Run.Report.complete` — traces have the form, and beginnings are completed
* `Run.merge_of_pairs` — the message is that of the pairs that were written
-/

namespace Scaffold

namespace Run

variable {wd : Option Path} {d : Directive} {body : Text} {ps : List (Directive × Text)}
  {p q : Progress Memory} {m m' : Memory} {es : List Event}

/-! ### Traces -/

/-- The events of injections carried out from one store to another: one for each injection that
is not satisfied when its turn comes. -/
inductive InjectionTrace (wd : Option Path) : Memory → List Injection → List Event → Memory → Prop
  | nil (m : Memory) : InjectionTrace wd m [] [] m
  | satisfied {m m' : Memory} {j : Injection} {js : List Injection} {es : List Event}
      {contents : Text} (hfile : m.files.lookup (keyOf wd j.target) = some contents)
      (hsat : j.isSatisfied (Text.unifyNewlines contents) = true)
      (hrest : InjectionTrace wd m js es m') : InjectionTrace wd m (j :: js) es m'
  | patched {m m' : Memory} {j : Injection} {js : List Injection} {es : List Event}
      {contents : Text} (hfile : m.files.lookup (keyOf wd j.target) = some contents)
      (hsat : j.isSatisfied (Text.unifyNewlines contents) = false)
      (hrest : InjectionTrace wd
        (m.written (resolve wd j.target) (j.apply (Text.unifyNewlines contents))) js es m') :
      InjectionTrace wd m (j :: js) (⟨.injected, resolve wd j.target⟩ :: es) m'

/-- The events of a pair: that it is skipped, or that its body is written, where nothing was or
over what was there, and then those of its injections. -/
inductive PairTrace (wd : Option Path) (m : Memory) (d : Directive) (body : Text) :
    List Event → Memory → Prop
  | skipped (hskip : isSkipped wd d m = true) :
      PairTrace wd m d body [⟨.skipped, resolve wd d.target⟩] m
  | written {m' : Memory} {es : List Event} (hskip : isSkipped wd d m = false)
      (hjs : InjectionTrace wd (m.written (resolve wd d.target) body) d.injections es m') :
      PairTrace wd m d body
        (⟨if m.holds (resolve wd d.target) then .overwritten else .added,
          resolve wd d.target⟩ :: es) m'

/-- The events of pairs, one pair after another. -/
inductive Trace (wd : Option Path) : Memory → List (Directive × Text) → List Event → Memory → Prop
  | nil (m : Memory) : Trace wd m [] [] m
  | cons {m m₁ m' : Memory} {d : Directive} {body : Text} {ps : List (Directive × Text)}
      {es es' : List Event} (hpair : PairTrace wd m d body es m₁) (hrest : Trace wd m₁ ps es' m') :
      Trace wd m ((d, body) :: ps) (es ++ es') m'

theorem trace_of_injectAll {js : List Injection} (h : injectAll wd js p = (.ok (), q)) :
    ∃ es, q.events = p.events ++ es ∧ InjectionTrace wd p.store js es q.store := by
  induction js generalizing p with
  | nil =>
    obtain rfl : p = q := by simpa using h
    exact ⟨[], (List.append_nil _).symm, .nil _⟩
  | cons j js ih =>
    obtain ⟨b, p', hj, hrest⟩ := injectAll_cons_eq_ok_iff.mp h
    obtain ⟨es, hevents, htrace⟩ := ih hrest
    cases inject_outcome hj with
    | satisfied hfile hsat => exact ⟨es, hevents, .satisfied hfile hsat htrace⟩
    | patched hfile hsat =>
      refine ⟨_, ?_, .patched hfile hsat htrace⟩
      rw [hevents, Progress.wrote, List.append_assoc]
      rfl

theorem trace_of_pair {r : Result} (h : pair wd d body p = (.ok r, q)) :
    ∃ es, q.events = p.events ++ es ∧ PairTrace wd p.store d body es q.store := by
  rcases pair_eq_ok_iff.mp h with ⟨hskip, -, rfl⟩ | ⟨hskip, -, p', hbody, hjs⟩
  · exact ⟨_, rfl, .skipped hskip⟩
  · obtain ⟨es, hevents, htrace⟩ := trace_of_injectAll hjs
    cases writeBody_outcome hbody with
    | written =>
      refine ⟨_, ?_, .written hskip htrace⟩
      rw [hevents, Progress.wrote, List.append_assoc]
      rfl

/-- **Pairs that run to their end report a trace.** -/
theorem trace_of_pairs {results : List Result} (h : pairs wd ps p = (.ok results, q)) :
    ∃ es, q.events = p.events ++ es ∧ Trace wd p.store ps es q.store := by
  induction ps generalizing p results with
  | nil =>
    obtain ⟨-, rfl⟩ : [] = results ∧ p = q := by simpa using h
    exact ⟨[], (List.append_nil _).symm, .nil _⟩
  | cons x ps ih =>
    obtain ⟨r, p', rs, hpair, hrest, -⟩ := pairs_cons_eq_ok_iff.mp h
    obtain ⟨es, hevents, htrace⟩ := trace_of_pair hpair
    obtain ⟨es', hevents', htrace'⟩ := ih hrest
    exact ⟨es ++ es', by rw [hevents', hevents, List.append_assoc], .cons htrace htrace'⟩

/-! ### Beginnings -/

/-- Some of the pairs, from the first one on, the last of which may have only some of its
injections. -/
def IsBeginning (cut ps : List (Directive × Text)) : Prop :=
  cut <+: ps ∨
    ∃ before d body after done, ps = before ++ (d, body) :: after ∧ done <+: d.injections ∧
      cut = before ++ [({ d with injections := done }, body)]

/-- **Pairs that fail report the trace of a beginning of them**, up to the operation that fails. -/
theorem trace_of_pairs_error {e : Failure} (h : pairs wd ps p = (.error e, q)) :
    ∃ cut es, IsBeginning cut ps ∧ q.events = p.events ++ es ∧ Trace wd p.store cut es q.store := by
  obtain ⟨f, -, hstop⟩ := pairs_stop h
  rcases hstop with ⟨before, d, body, after, results, rfl, hrun, -⟩ |
    ⟨before, d, body, after, done, j, rest, results, p', rfl, hjs, hrun, -, -, hstore, hevents⟩
  · obtain ⟨es, hes, htrace⟩ := trace_of_pairs hrun
    exact ⟨before, es, Or.inl (List.prefix_append _ _), hes, htrace⟩
  · obtain ⟨es, hes, htrace⟩ := trace_of_pairs hrun
    have hdone : done <+: d.injections := hjs ▸ List.prefix_append _ _
    refine ⟨_, es, Or.inr ⟨before, d, body, after, done, rfl, hdone, rfl⟩, ?_, ?_⟩
    · rw [hevents, hes]
    · rwa [hstore]

/-! ### The form of a trace -/

/-- The form of the events of a pair. -/
inductive PairReport (wd : Option Path) (d : Directive) : List Event → Prop
  | skipped : PairReport wd d [⟨.skipped, resolve wd d.target⟩]
  | written {kind : EventKind} {es : List Event} (hkind : kind = .added ∨ kind = .overwritten)
      (hes : es.Sublist (d.injections.map fun j => ⟨.injected, resolve wd j.target⟩)) :
      PairReport wd d (⟨kind, resolve wd d.target⟩ :: es)

/-- The form of the events of pairs. -/
inductive Report (wd : Option Path) : List (Directive × Text) → List Event → Prop
  | nil : Report wd [] []
  | cons {d : Directive} {body : Text} {ps : List (Directive × Text)} {es es' : List Event}
      (hpair : PairReport wd d es) (hrest : Report wd ps es') :
      Report wd ((d, body) :: ps) (es ++ es')

theorem InjectionTrace.sublist {js : List Injection} (h : InjectionTrace wd m js es m') :
    es.Sublist (js.map fun j => ⟨.injected, resolve wd j.target⟩) := by
  induction h with
  | nil => exact List.Sublist.refl _
  | satisfied _ _ _ ih => exact ih.cons _
  | patched _ _ _ ih => exact ih.cons_cons _

theorem PairTrace.report (h : PairTrace wd m d body es m') : PairReport wd d es := by
  cases h with
  | skipped => exact .skipped
  | written _ hjs =>
    refine .written ?_ hjs.sublist
    cases m.holds (resolve wd d.target) <;> simp

theorem Trace.report (h : Trace wd m ps es m') : Report wd ps es := by
  induction h with
  | nil => exact .nil
  | cons hpair _ ih => exact .cons hpair.report ih

theorem PairReport.of_cut {done : List Injection} (hdone : done <+: d.injections)
    (h : PairReport wd { d with injections := done } es) : PairReport wd d es := by
  cases h with
  | skipped => exact .skipped
  | written hkind hes => exact .written hkind (hes.trans (hdone.sublist.map _))

theorem Report.of_cut {before : List (Directive × Text)} {done : List Injection}
    (hdone : done <+: d.injections)
    (h : Report wd (before ++ [({ d with injections := done }, body)]) es) :
    Report wd (before ++ [(d, body)]) es := by
  induction before generalizing es with
  | nil =>
    cases h with
    | cons hpair hrest => exact .cons (hpair.of_cut hdone) hrest
  | cons x before ih =>
    cases h with
    | cons hpair hrest => exact .cons hpair (ih hrest)

/-- There is always something that pairs could report: that all of them are skipped. -/
theorem exists_report (wd : Option Path) (ps : List (Directive × Text)) :
    ∃ es, Report wd ps es := by
  induction ps with
  | nil => exact ⟨[], .nil⟩
  | cons x ps ih =>
    obtain ⟨es, hes⟩ := ih
    exact ⟨_, .cons .skipped hes⟩

theorem Report.append {ps' : List (Directive × Text)} {es' : List Event} (h : Report wd ps es)
    (h' : Report wd ps' es') : Report wd (ps ++ ps') (es ++ es') := by
  induction h with
  | nil => exact h'
  | cons hpair _ ih =>
    rw [List.append_assoc]
    exact .cons hpair ih

/-- **The report of a beginning can be completed.** -/
theorem Report.complete {cut : List (Directive × Text)} (hcut : IsBeginning cut ps)
    (h : Report wd cut es) : ∃ more, Report wd ps (es ++ more) := by
  rcases hcut with ⟨after, rfl⟩ | ⟨before, d, body, after, done, rfl, hdone, rfl⟩
  · obtain ⟨more, hmore⟩ := exists_report wd after
    exact ⟨more, h.append hmore⟩
  · obtain ⟨more, hmore⟩ := exists_report wd after
    rw [List.append_cons]
    exact ⟨more, (h.of_cut hdone).append hmore⟩

/-! ### Messages -/

/-- What pairs have to tell, without what is empty. -/
def messages (ps : List (Directive × Text)) : List Text :=
  (ps.filterMap fun x => x.1.message).filter fun message => !message.isEmpty

theorem messages_cons (x : Directive × Text) (ps : List (Directive × Text)) :
    messages (x :: ps) = match (Result.generated x.1.message).message? with
      | none => messages ps
      | some message => message :: messages ps := by
  rw [messages, List.filterMap_cons, messages]
  cases x.1.message with
  | none => rfl
  | some message => cases message <;> rfl

/-- **The message of a document is made of those of the pairs that were written.** -/
theorem merge_of_pairs {results : List Result} (h : pairs wd ps p = (.ok results, q)) :
    merge results = .generated (some (Text.join ['\n'] (messages (writtenPairs wd ps p)))) := by
  have hmessages : results.filterMap Result.message? = messages (writtenPairs wd ps p) := by
    induction ps generalizing p results with
    | nil =>
      obtain ⟨rfl, -⟩ : [] = results ∧ p = q := by simpa using h
      rfl
    | cons x ps ih =>
      obtain ⟨r, p', rs, hpair, hrest, rfl⟩ := pairs_cons_eq_ok_iff.mp h
      rw [writtenPairs_cons_of_eq hpair, List.filterMap_cons, ih hrest]
      rcases pair_eq_ok_iff.mp hpair with ⟨hskip, rfl, -⟩ | ⟨hskip, rfl, -⟩
      · rw [hskip, if_pos rfl]
        rfl
      · rw [hskip, if_neg Bool.false_ne_true, messages_cons]
        cases (Result.generated x.1.message).message? <;> rfl
  rw [merge, hmessages]

end Run

end Scaffold
