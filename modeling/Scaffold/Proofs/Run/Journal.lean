import Scaffold.Proofs.Run.Trace
import Mathlib.Data.List.Nodup

/-!
# Files, record and events in step

Documents are run one after another on the same store, whatever becomes of each. Three things
are kept on the way: the files, the record of writes, and the events. `Journal` says how they
hang together. Every step of a run preserves it, so it holds after every sequence of documents;
that a path is added only once comes out of it because what was added is there from then on.

What each document of the sequence contributes is its `CallTrace`.

## Main results

* `Run.Step.journal` — one step keeps files, record and events in step
* `Run.callTrace_document` — what one document reports and answers
* `Run.documents_journal` — a sequence of documents
-/

namespace Scaffold

namespace Run

variable {wd : Option Path} {p q : Progress Memory} {files : List (Text × Text)}

/-! ### The journal -/

/-- Files with writes laid over them, first things first. -/
def overlay (files writes : List (Text × Text)) : List (Text × Text) :=
  writes.foldl (fun files write => Memory.put write.1 write.2 files) files

/-- The paths of the events of files that were written. -/
def writtenPaths (events : List Event) : List Text :=
  (events.filter fun event => event.kind ≠ .skipped).map fun event => event.path.text

/-- The paths of the files that were added. -/
def addedPaths (events : List Event) : List Text :=
  (events.filter fun event => event.kind = .added).map fun event => event.path.text

@[simp] theorem writtenPaths_append (events : List Event) (event : Event) :
    writtenPaths (events ++ [event]) =
      writtenPaths events ++ if event.kind = .skipped then [] else [event.path.text] := by
  by_cases h : event.kind = .skipped <;> simp [writtenPaths, h]

@[simp] theorem addedPaths_append (events : List Event) (event : Event) :
    addedPaths (events ++ [event]) =
      addedPaths events ++ if event.kind = .added then [event.path.text] else [] := by
  by_cases h : event.kind = .added <;> simp [addedPaths, h]

/-- The events name what was written, the files are what was written over those at first, and no
file was added twice. -/
structure Journal (files : List (Text × Text)) (p : Progress Memory) : Prop where
  writtenPaths_eq : writtenPaths p.events = p.store.writes.map (·.1)
  files_eq : p.store.files = overlay files p.store.writes
  added_nodup : (addedPaths p.events).Nodup
  /-- What was added is still there. -/
  added_mem : ∀ key ∈ addedPaths p.events, key ∈ p.store.keys

theorem journal_start (files : List (Text × Text)) (readOnly : List Text) :
    Journal files ⟨⟨files, readOnly, []⟩, [], []⟩ where
  writtenPaths_eq := rfl
  files_eq := rfl
  added_nodup := List.nodup_nil
  added_mem := by simp [addedPaths]

/-- **One step keeps files, record and events in step.** -/
theorem Step.journal (h : Step p q) (hp : Journal files p) : Journal files q := by
  have hkeys := h.keys_subset
  obtain ⟨hwritten, hfiles, hnodup, hmem⟩ := hp
  cases h with
  | skip path => exact ⟨by simpa using hwritten, hfiles, by simpa using hnodup, by simpa using hmem⟩
  | note => exact ⟨hwritten, hfiles, hnodup, hmem⟩
  | @write kind path contents notes hkind hnew =>
    refine ⟨?_, ?_, ?_, ?_⟩
    · simp [Progress.wrote, Memory.written, hkind, hwritten]
    · simp [Progress.wrote, Memory.written, overlay, hfiles]
    · by_cases hk : kind = .added
      · -- what was added is there, and only what is not there is added
        have hnot : path.text ∉ addedPaths p.events := fun hin =>
          absurd (Memory.holds_of_mem_keys (hmem _ hin)) (by simp [hnew hk])
        simpa [Progress.wrote, hk] using List.Nodup.concat hnot hnodup
      · simpa [Progress.wrote, hk] using hnodup
    · intro key hkey
      have hpath : path.text ∈ (p.wrote kind path contents notes).store.keys :=
        Memory.mem_keys_written.mpr (Or.inl rfl)
      by_cases hk : kind = .added
      · simp only [Progress.wrote, addedPaths_append, if_pos hk, List.mem_append,
          List.mem_singleton] at hkey
        rcases hkey with hkey | rfl
        · exact hkeys (hmem key hkey)
        · exact hpath
      · simp only [Progress.wrote, addedPaths_append, if_neg hk, List.append_nil] at hkey
        exact hkeys (hmem key hkey)

theorem Steps.journal (h : Steps p q) (hp : Journal files p) : Journal files q := by
  induction h with
  | refl => exact hp
  | tail _ hstep ih => exact hstep.journal ih

/-! ### Sequences of documents -/

/-- Documents run one after another, each whether or not those before it failed. -/
def documents {σ : Type} [Storage σ] (wd : Option Path) : List Text → Progress σ → Progress σ
  | [], p => p
  | s :: rest, p => documents wd rest (document wd s p).2

theorem documents_append {σ : Type} [Storage σ] (docs more : List Text) (p : Progress σ) :
    documents wd (docs ++ more) p = documents wd more (documents wd docs p) := by
  induction docs generalizing p with
  | nil => rfl
  | cons s docs ih => exact ih _

theorem steps_documents (docs : List Text) (p : Progress Memory) :
    Steps p (documents wd docs p) := by
  induction docs generalizing p with
  | nil => exact .refl
  | cons s docs ih => exact (steps_document (Prod.eta _).symm).trans (ih _)

/-- What running a document from `p` adds to the events and what it answers. A document that
cannot be read adds nothing. One that runs to its end adds a trace of its pairs, and its message
is made of those of the pairs that were written. One that fails adds the trace of a beginning of
them, which some report of all of them goes on from. -/
inductive CallTrace (wd : Option Path) (s : Text) (p : Progress Memory) :
    Except Failure Result → Progress Memory → Prop
  | unread {e : Document.Failure} (hparse : Document.parse s = .error e) :
      CallTrace wd s p (.error (.document e)) p
  | finished {ps : List (Directive × Text)} {es : List Event} {q : Progress Memory}
      (hparse : Document.parse s = .ok ps) (hevents : q.events = p.events ++ es)
      (htrace : Trace wd p.store ps es q.store) :
      CallTrace wd s p
        (.ok (.generated (some (Text.join ['\n'] (messages (writtenPairs wd ps p)))))) q
  | stopped {ps cut : List (Directive × Text)} {es : List Event} {q : Progress Memory}
      {f : Storage.Failure} (hparse : Document.parse s = .ok ps) (hcut : IsBeginning cut ps)
      (hevents : q.events = p.events ++ es) (htrace : Trace wd p.store cut es q.store)
      (hreport : ∃ more, Report wd ps (es ++ more)) :
      CallTrace wd s p (.error (.storage f)) q

theorem callTrace_document (wd : Option Path) (s : Text) (p : Progress Memory) :
    CallTrace wd s p (document wd s p).1 (document wd s p).2 := by
  rcases h : document wd s p with ⟨e | r, q⟩
  · rcases document_eq_error_iff.mp h with ⟨f, hparse, rfl, rfl⟩ | ⟨ps, hparse, hrun⟩
    · exact .unread hparse
    · obtain ⟨f, rfl, -⟩ := pairs_stop hrun
      obtain ⟨cut, es, hcut, hevents, htrace⟩ := trace_of_pairs_error hrun
      exact .stopped hparse hcut hevents htrace (htrace.report.complete hcut)
  · obtain ⟨ps, results, hparse, hrun, rfl⟩ := document_eq_ok_iff.mp h
    obtain ⟨es, hevents, htrace⟩ := trace_of_pairs hrun
    rw [merge_of_pairs hrun]
    exact .finished hparse hevents htrace

/-- **Files, record of writes and events stay in step.** After any sequence of documents, run on
any files, the events apart from skips name exactly what was written, in order; the files are
those at first with all that was written laid over them; no path was added twice; and each
document of the sequence has added its trace. -/
theorem documents_journal (wd : Option Path) (files : List (Text × Text)) (readOnly : List Text)
    (docs : List Text) :
    let start : Progress Memory := ⟨⟨files, readOnly, []⟩, [], []⟩
    let final := documents wd docs start
    writtenPaths final.events = final.store.writes.map (·.1) ∧
      final.store.files = overlay files final.store.writes ∧
      (addedPaths final.events).Nodup ∧
      ∀ before s after, docs = before ++ s :: after →
        let p := documents wd before start
        CallTrace wd s p (document wd s p).1 (documents wd (before ++ [s]) start) := by
  intro start final
  have hjournal : Journal files final :=
    (steps_documents docs start).journal (journal_start files readOnly)
  refine ⟨hjournal.writtenPaths_eq, hjournal.files_eq, hjournal.added_nodup, ?_⟩
  intro before s after _ p
  rw [documents_append]
  exact callTrace_document wd s p

end Run

end Scaffold
