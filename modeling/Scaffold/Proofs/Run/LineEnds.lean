import Scaffold.Proofs.Run.Simulation
import Scaffold.Proofs.Storage.Memory

/-!
# Line ends of patched files

Two stores with the same files but for their line ends see the same run. A file that no one writes
keeps its line ends, and so the stores stay apart in some files; from the moment a file is written
it is the same in both, because what is written is made from unified text alone.

## Main results

* `Memory.SameUpToLineEnds.written` — a write keeps stores the same up to line ends
* `Run.document_lineEnds` — the run does not depend on line ends
-/

namespace Scaffold

/-! ### Stores that differ in line ends -/

/-- Two stores with files under the same keys, each the same once line ends are unified, and the
same files protected. The order of the files does not matter. -/
structure Memory.SameUpToLineEnds (m n : Memory) : Prop where
  lookup_eq (key : Text) :
    (m.files.lookup key).map Text.unifyNewlines = (n.files.lookup key).map Text.unifyNewlines
  readOnly_iff (key : Text) : key ∈ m.readOnly ↔ key ∈ n.readOnly

namespace Memory.SameUpToLineEnds

variable {m n : Memory}

theorem mem_keys_iff (h : m.SameUpToLineEnds n) (key : Text) : key ∈ m.keys ↔ key ∈ n.keys := by
  rw [← lookup_isSome_iff, ← lookup_isSome_iff, ← Option.isSome_map (f := Text.unifyNewlines),
    h.lookup_eq key, Option.isSome_map]

theorem holds_eq (h : m.SameUpToLineEnds n) (path : Path) : n.holds path = m.holds path := by
  rw [Bool.eq_iff_iff]
  exact ⟨holds_mono fun key => (h.mem_keys_iff key).mpr,
    holds_mono fun key => (h.mem_keys_iff key).mp⟩

/-- A pattern matches in both stores or in none: whether it does depends on the keys. -/
theorem glob_isEmpty_eq (h : m.SameUpToLineEnds n) (path : Path) :
    (n.glob path.text).isEmpty = (m.glob path.text).isEmpty :=
  glob_isEmpty_congr (by simp only [h.mem_keys_iff])

theorem read_eq (h : m.SameUpToLineEnds n) (path : Path) :
    (n.read path).map Text.unifyNewlines = (m.read path).map Text.unifyNewlines := by
  have hlookup := h.lookup_eq path.text
  rw [read, read]
  rcases hm : m.files.lookup path.text with _ | contents <;>
    rcases hn : n.files.lookup path.text with _ | contents' <;>
      simp only [hm, hn, Option.map_none, Option.map_some, reduceCtorEq, Option.some.injEq]
        at hlookup
  · rfl
  · simp [Except.map, hlookup]

theorem written (h : m.SameUpToLineEnds n) (path : Path) (contents : Text) :
    (m.written path contents).SameUpToLineEnds (n.written path contents) where
  lookup_eq key := by
    rw [Memory.written, Memory.written, lookup_put, lookup_put]
    split
    · rfl
    · exact h.lookup_eq key
  readOnly_iff := h.readOnly_iff

end Memory.SameUpToLineEnds

namespace Run

/-! ### The runs on both -/

/-- Where runs from `m` and from `n` have come: they have written the same, and what they have
written is the same in both. -/
structure AlikeSince (m n m' n' : Memory) : Prop where
  same : m'.SameUpToLineEnds n'
  writes : ∃ writes, m'.writes = m.writes ++ writes ∧ n'.writes = n.writes ++ writes ∧
    ∀ write ∈ writes, ∃ contents, m'.files.lookup write.1 = some contents ∧
      n'.files.lookup write.1 = some contents

theorem AlikeSince.written {m n m' n' : Memory} (h : AlikeSince m n m' n') (path : Path)
    (contents : Text) :
    AlikeSince m n (m'.written path contents) (n'.written path contents) where
  same := h.same.written path contents
  writes := by
    obtain ⟨writes, hm, hn, hequal⟩ := h.writes
    refine ⟨writes ++ [(path.text, contents)], ?_, ?_, ?_⟩
    · simp [Memory.written, hm]
    · simp [Memory.written, hn]
    · intro write hwrite
      simp only [Memory.written, Memory.lookup_put]
      split
      · exact ⟨contents, rfl, rfl⟩
      · rename_i hne
        rcases List.mem_append.mp hwrite with hbefore | hlast
        · exact hequal write hbefore
        · exact absurd (congrArg Prod.fst (List.mem_singleton.mp hlast)) hne

/-- Runs with one working directory on two stores that are the same up to line ends. -/
def lineEnds (wd : Option Path) (m n : Memory) : Simulation Memory Memory where
  wd := wd
  wd' := wd
  move := id
  Related := AlikeSince m n
  Reaches _ := True
  Matches _ := True
  resolve_eq _ := rfl
  holds_eq h _ := h.same.holds_eq _
  glob_eq h _ := h.same.glob_isEmpty_eq _
  read_eq {m' n' path} h _ := by
    have hread : (n'.read (resolve wd path)).map Text.unifyNewlines =
        (m'.read (resolve wd path)).map Text.unifyNewlines := h.same.read_eq _
    exact hread.trans (Storage.Failure.mapError_mapPath_id _).symm
  write_eq contents h _ :=
    Memory.write_fst_alike (f := id) rfl (h.same.readOnly_iff _).symm contents
  related_write contents h _ :=
    Memory.write_snd_alike (h.same.readOnly_iff _).symm h (h.written _ contents)

/-- **A run does not depend on the line ends of the files it meets.** It gives the same answer,
the same events and the same log, and it writes the same; the stores it leaves are again the same
up to line ends, and exactly the same in every file that was written. -/
theorem document_lineEnds {m n : Memory} (h : m.SameUpToLineEnds n) (wd : Option Path) (s : Text)
    (events : List Event) (notes : List Note) :
    ∃ answer writes events' notes' m' n',
      document wd s ⟨m, events, notes⟩ = (answer, ⟨m', events', notes'⟩) ∧
        document wd s ⟨n, events, notes⟩ = (answer, ⟨n', events', notes'⟩) ∧
        m'.writes = m.writes ++ writes ∧ n'.writes = n.writes ++ writes ∧
        m'.SameUpToLineEnds n' ∧
        ∀ write ∈ writes, ∃ contents, m'.files.lookup write.1 = some contents ∧
          n'.files.lookup write.1 = some contents := by
  let S := lineEnds wd m n
  have hstart : S.InStep ⟨m, events, notes⟩ ⟨n, events, notes⟩ :=
    ⟨⟨h, [], by simp, by simp, by simp⟩, by simp [S, lineEnds], by simp [S, lineEnds]⟩
  have hcovers : ∀ ps, Document.parse s = .ok ps → ∀ x ∈ ps, S.Covers x.1 := fun _ _ _ _ =>
    ⟨trivial, fun _ _ => trivial, fun _ _ _ => trivial⟩
  obtain ⟨e, ⟨m', events₁, notes₁⟩, ⟨n', events₂, notes₂⟩, hp, hq, hend⟩ |
    ⟨r, ⟨m', events₁, notes₁⟩, ⟨n', events₂, notes₂⟩, hp, hq, hend⟩ := S.document hcovers hstart
  all_goals
    obtain ⟨⟨hsame, writes, hm, hn, hequal⟩, hevents, hnotes⟩ := hend
    obtain rfl : events₂ = events₁ := by simpa [S, lineEnds] using hevents
    obtain rfl : notes₂ = notes₁ := by simpa [S, lineEnds] using hnotes
  · have hq' : document wd s ⟨n, events, notes⟩ = (.error e, ⟨n', events₂, notes₂⟩) := by
      simpa [S, lineEnds] using hq
    exact ⟨.error e, writes, _, _, m', n', hp, hq', hm, hn, hsame, hequal⟩
  · exact ⟨.ok r, writes, _, _, m', n', hp, hq, hm, hn, hsame, hequal⟩

/-- A pair that is skipped, and one whose injection patches `m`. -/
def patchingText : Text :=
  Text.unlines <| List.map Text.of
    ["---", "to: t", "skip_exists: true", "---", "x", "---", "to: u", "injections:", "- into: m",
      "  after: b", "  content: c", "---", "y"]

theorem document_lineEnds_mixed :
    let m : Memory := ⟨[(['m'], Text.of "a\r\nb\r"), (['t'], Text.of "0\r")], [], []⟩
    let n : Memory := ⟨[(['t'], Text.of "0\n"), (['m'], Text.of "a\nb\r\n")], [], []⟩
    m.SameUpToLineEnds n ∧
      (document none patchingText ⟨m, [], []⟩).2.store.writes =
        [(['u'], ['y']), (['m'], Text.of "a\nb\nc\n")] ∧
      ∃ answer writes events' notes' m' n',
        document none patchingText ⟨m, [], []⟩ = (answer, ⟨m', events', notes'⟩) ∧
          document none patchingText ⟨n, [], []⟩ = (answer, ⟨n', events', notes'⟩) ∧
          m'.writes = m.writes ++ writes ∧ n'.writes = n.writes ++ writes ∧
          m'.SameUpToLineEnds n' ∧
          ∀ write ∈ writes, ∃ contents, m'.files.lookup write.1 = some contents ∧
            n'.files.lookup write.1 = some contents := by
  intro m n
  have hsame : m.SameUpToLineEnds n := by
    refine ⟨fun key => ?_, fun _ => Iff.rfl⟩
    by_cases hm : key = ['m']
    · subst hm
      decide
    · by_cases ht : key = ['t']
      · subst ht
        decide
      · simp [m, n, List.lookup_cons, beq_eq_false_iff_ne.mpr hm, beq_eq_false_iff_ne.mpr ht]
  exact ⟨hsame, by decide +kernel, document_lineEnds hsame none patchingText [] []⟩

end Run

end Scaffold
