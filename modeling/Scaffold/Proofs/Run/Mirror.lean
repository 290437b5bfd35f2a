import Scaffold.Proofs.Run.Commute
import Scaffold.Proofs.Run.Journal
import Scaffold.Proofs.Storage.Mirror

/-!
# The same run in memory and on a disk

Documents that are run on files in memory do what they do on a disk, as long as the tree mirrors
the memory at first and the paths fit on a disk together. What carries this over the runs is
`Disk.Mirrors`: a run asks the same questions in both places, gets the same answers, and then
writes the same, so the two still mirror each other.

Without the condition on the paths the two part. In memory `a` and `a/b` can both be written; on a
disk the second write fails.

## Main results

* `Run.onDisk` — what ties the files in memory to those of the tree
* `Run.Simulation.documents` — runs that go alike, over a sequence of documents
* `Run.documents_onDisk` — a sequence of documents in memory and on a disk
-/

namespace Scaffold

namespace Run

/-- The paths that a pair declares, as its target or by its injections. -/
def declaredPaths (x : Directive × Text) : List Path :=
  Path.ofText x.1.target :: x.1.injections.map fun j => Path.ofText j.target

/-- Runs in memory and on a disk, over paths that fit on a disk together. -/
def onDisk {paths : List Path} (hfits : Disk.Fits paths) : Simulation Memory Disk where
  wd := none
  wd' := none
  move := id
  Related m d := d.Mirrors m ∧ ∀ key ∈ m.keys, Path.ofText key ∈ paths
  Reaches path := Path.ofText path ∈ paths
  Matches _ := False
  resolve_eq _ := rfl
  holds_eq h hpath := h.1.holds_eq (hfits.plain _ hpath)
  glob_eq _ hnone := hnone.elim
  read_eq {m d path} h hpath := by
    change (d.read (Path.ofText path)).map Text.unifyNewlines =
      ((m.read (Path.ofText path)).map Text.unifyNewlines).mapError _
    rw [h.1.read_eq (hfits.plain _ hpath), Storage.Failure.mapError_mapPath_id]
  write_eq {m d path} contents h hpath := by
    have hclear := Disk.Mirrors.isClear_of_fits hfits h.2 hpath
    obtain ⟨d', hwrite, hwrite', -⟩ := h.1.exists_write (hfits.plain _ hpath) hclear contents
    change (d.write (Path.ofText path) contents).1 =
      (m.write (Path.ofText path) contents).1.mapError _
    rw [hwrite, hwrite']
    rfl
  related_write {m d path} contents h hpath := by
    have hclear := Disk.Mirrors.isClear_of_fits hfits h.2 hpath
    obtain ⟨d', hwrite, hwrite', hmirrors⟩ :=
      h.1.exists_write (hfits.plain _ hpath) hclear contents
    change (d.write (Path.ofText path) contents).2.Mirrors
        (m.write (Path.ofText path) contents).2 ∧
      ∀ key ∈ (m.write (Path.ofText path) contents).2.keys, Path.ofText key ∈ paths
    rw [hwrite, hwrite']
    refine ⟨hmirrors, fun key hkey => ?_⟩
    rcases Memory.mem_keys_written.mp hkey with rfl | hkey
    · rwa [Path.ofText_text]
    · exact h.2 key hkey

/-! ### Sequences of documents -/

namespace Simulation

variable {σ τ : Type} [Storage σ] [Storage τ] {S : Simulation σ τ}

/-- Documents that only have directives that are covered. -/
def CoversText (S : Simulation σ τ) (s : Text) : Prop :=
  ∀ ps, Document.parse s = .ok ps → ∀ x ∈ ps, S.Covers x.1

/-- Runs that end in the same way are in step where they end. -/
theorem Agree.inStep {α : Type} {x : Except Failure α × Progress σ}
    {y : Except Failure α × Progress τ} (h : S.Agree x y) : S.InStep x.2 y.2 := by
  obtain ⟨_, _, _, rfl, rfl, hend⟩ | ⟨_, _, _, rfl, rfl, hend⟩ := h <;> exact hend

/-- Runs that end in the same way have the same answer, up to the change of paths. -/
theorem Agree.answer_eq {α : Type} {x : Except Failure α × Progress σ}
    {y : Except Failure α × Progress τ} (h : S.Agree x y) :
    y.1 = x.1.mapError (Failure.mapPath S.move) := by
  obtain ⟨_, _, _, rfl, rfl, -⟩ | ⟨_, _, _, rfl, rfl, -⟩ := h <;> rfl

/-- **Runs of documents that are in step stay so**, whether or not some of them fail. -/
theorem documents {docs : List Text} (hdocs : ∀ s ∈ docs, S.CoversText s) {p : Progress σ}
    {q : Progress τ} (h : S.InStep p q) :
    S.InStep (Run.documents S.wd docs p) (Run.documents S.wd' docs q) := by
  induction docs generalizing p q with
  | nil => exact h
  | cons s rest ih =>
    rw [List.forall_mem_cons] at hdocs
    exact ih hdocs.2 (document hdocs.1 h).inStep

end Simulation

/-- A document with paths among those that fit together, and without patterns. -/
theorem coversText_onDisk {paths : List Path} (hfits : Disk.Fits paths) {s : Text}
    (hpaths : ∀ x ∈ pairsIn s, declaredPaths x ⊆ paths)
    (hglob : ∀ x ∈ pairsIn s, x.1.HasNoGlob) : (onDisk hfits).CoversText s := by
  intro ps hps x hx
  have hin : x ∈ pairsIn s := by
    rw [pairsIn, hps]
    exact hx
  exact ⟨hpaths x hin List.mem_cons_self,
    fun j hj => hpaths x hin (List.mem_cons_of_mem _ (List.mem_map_of_mem hj)),
    fun pattern hpattern hne => hne ((hglob x hin).eq_nil hpattern)⟩

/-- **Files in memory stand for files on a disk.** A tree mirrors the memory, and the paths of its
files and those that the documents declare fit on a disk together. Then every document of the
sequence has the same answer in both places, be it a failure or not, the same events have been
reported after it, and the same files with the same contents are there, and nothing else. -/
theorem documents_onDisk {m : Memory} {d : Disk} (h : d.Mirrors m) {docs : List Text}
    (hfits : Disk.Fits (m.keys.map Path.ofText ++
      docs.flatMap fun s => (pairsIn s).flatMap declaredPaths))
    (hglob : ∀ s ∈ docs, ∀ x ∈ pairsIn s, x.1.HasNoGlob) :
    ∀ before s after, docs = before ++ s :: after →
      let inMemory := document none s (documents none before ⟨m, [], []⟩)
      let onTree := document none s (documents none before ⟨d, [], []⟩)
      onTree.1 = inMemory.1 ∧ onTree.2.events = inMemory.2.events ∧
        onTree.2.store.Mirrors inMemory.2.store ∧
        ∀ parts bytes,
          onTree.2.store.entry? (onTree.2.store.current ++ parts) = some (.file bytes) ↔
            ∃ path : Path, path.IsPlain ∧ path.parts = parts ∧ ∃ contents,
              inMemory.2.store.files.lookup path.text = some contents ∧
                bytes = Text.encode contents := by
  intro before s after hdocs inMemory onTree
  let S := onDisk hfits
  have hstart : S.InStep ⟨m, [], []⟩ ⟨d, [], []⟩ :=
    ⟨⟨h, fun key hkey => List.mem_append_left _ (List.mem_map_of_mem hkey)⟩, rfl, rfl⟩
  have hcovers : ∀ s ∈ docs, S.CoversText s := fun s hs =>
    coversText_onDisk hfits (fun x hx path hpath => List.mem_append_right _
      (List.mem_flatMap.mpr ⟨s, hs, List.mem_flatMap.mpr ⟨x, hx, hpath⟩⟩)) (hglob s hs)
  subst hdocs
  have hbefore := S.documents (fun s hs => hcovers s (List.mem_append_left _ hs)) hstart
  have hagree := S.document (hcovers s (List.mem_append_right _ List.mem_cons_self)) hbefore
  have hend : S.InStep inMemory.2 onTree.2 := hagree.inStep
  refine ⟨?_, ?_, hend.related.1, fun parts bytes => hend.related.1.file_iff⟩
  · have hanswer : onTree.1 = inMemory.1.mapError (Failure.mapPath id) := hagree.answer_eq
    rw [hanswer, Failure.mapPath_id]
    cases inMemory.1 <;> rfl
  · have hevents : onTree.2.events = inMemory.2.events.map (Event.mapPath id) := hend.events_eq
    rw [hevents, Event.mapPath_id, List.map_id]

/-- A document that writes `d/x` and patches `a`. -/
def nestedText : Text :=
  Text.unlines <| List.map Text.of
    ["---", "to: d/x", "injections:", "- into: a", "  content: y", "  append: true", "---", "z"]

/-- A document that writes `d/z` and stops because `b` is not there. -/
def haltedText : Text :=
  Text.unlines <| List.map Text.of ["---", "to: d/z", "injections:", "- into: b", "---", "q"]

theorem documents_onDisk_halted :
    let m := Memory.ofFiles [(['a'], ['é'])] []
    let d := Disk.empty.withFiles [(['a'], ['é'])]
    let docs := [nestedText, haltedText, nestedText]
    let inMemory := document none haltedText (documents none [nestedText] ⟨m, [], []⟩)
    let onTree := document none haltedText (documents none [nestedText] ⟨d, [], []⟩)
    inMemory.1 = .error (.storage (.noTarget (Path.ofText ['b']))) ∧
      inMemory.2.store.files =
        [(['a'], ['é', '\n', 'y']), (Text.of "d/x", ['z']), (Text.of "d/z", ['q'])] ∧
      Disk.Fits (m.keys.map Path.ofText ++
        docs.flatMap fun s => (pairsIn s).flatMap declaredPaths) ∧
      onTree.1 = inMemory.1 ∧ onTree.2.events = inMemory.2.events ∧
      onTree.2.store.Mirrors inMemory.2.store ∧
      ∀ parts bytes,
        onTree.2.store.entry? (onTree.2.store.current ++ parts) = some (.file bytes) ↔
          ∃ path : Path, path.IsPlain ∧ path.parts = parts ∧ ∃ contents,
            inMemory.2.store.files.lookup path.text = some contents ∧
              bytes = Text.encode contents := by
  intro m d docs inMemory onTree
  have hmirrors : d.Mirrors m := Disk.mirrors_ofFiles (by decide +kernel)
  have hfits : Disk.Fits (m.keys.map Path.ofText ++
      docs.flatMap fun s => (pairsIn s).flatMap declaredPaths) := by decide +kernel
  refine ⟨by decide +kernel, by decide +kernel, hfits, ?_⟩
  exact documents_onDisk hmirrors hfits (by decide +kernel) [nestedText] haltedText [nestedText] rfl

end Run

end Scaffold
