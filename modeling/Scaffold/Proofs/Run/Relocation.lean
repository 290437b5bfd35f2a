import Mathlib.Control.Monad.Basic
import Scaffold.Proofs.Run.Simulation
import Scaffold.Proofs.Storage.Relocation

/-!
# Running in a working directory

A document with relative paths does in a working directory what it does without one, with every
path looked up in the directory: on the moved files, the moved run.

The one thing that need not move along is a pattern. It is the text of the directory with the
written pattern behind it, read as a pattern as a whole, so a directory whose name has wildcards
in it no longer stands for itself. A file at the very place where paths are looked up is the other
exception: in the directory no pattern reaches it any more.

## Main results

* `Run.document_relocate` — the moved run
* `Run.document_relocate_bracketed` — a directory with brackets in its name, where it fails
-/

namespace Scaffold

namespace Run

/-- The progress with every path looked up in a directory. -/
def Progress.relocate (dir : Path) (p : Progress Memory) : Progress Memory where
  store := p.store.relocate dir
  events := p.events.map (Event.mapPath dir.under)
  notes := p.notes.map (Note.mapPath dir.under)

/-- A directive whose paths, and the pattern if it is not empty, are relative and have a
component. -/
structure IsRelocatable (d : Directive) : Prop where
  target : (Path.ofText d.target).Descends
  injections : ∀ j ∈ d.injections, (Path.ofText j.target).Descends
  glob : ∀ pattern ∈ d.skipIfGlob, pattern ≠ [] → (Path.ofText pattern).Descends

instance (d : Directive) : Decidable (IsRelocatable d) :=
  decidable_of_iff ((Path.ofText d.target).Descends ∧
      (∀ j ∈ d.injections, (Path.ofText j.target).Descends) ∧
        ∀ pattern ∈ d.skipIfGlob, pattern ≠ [] → (Path.ofText pattern).Descends)
    ⟨fun ⟨htarget, hinjections, hglob⟩ => ⟨htarget, hinjections, hglob⟩,
      fun ⟨htarget, hinjections, hglob⟩ => ⟨htarget, hinjections, hglob⟩⟩

/-- A pattern that means the same in a directory, for runs that start from the given files: the
directory has no wildcards, and the pattern does not match the place where it is looked up, unless
no file is there. -/
def MatchesIn (dir : Path) (m : Memory) (pattern : Text) : Prop :=
  Glob.hasWildcard dir.text = false ∧
    (['.'] ∈ m.keys → Glob.isMatch (Path.ofText pattern).text ['.'] = false)

instance (dir : Path) (m : Memory) (pattern : Text) : Decidable (MatchesIn dir m pattern) :=
  inferInstanceAs (Decidable (_ ∧ _))

/-- Runs from the given files, and from the files moved into a directory. No run puts a file at
the place where paths are looked up. -/
def relocation {dir : Path} (hdir : dir.parts ≠ []) (start : Memory) :
    Simulation Memory Memory where
  wd := none
  wd' := some dir
  move := dir.under
  Related m n := n = m.relocate dir ∧ m.IsRelative ∧ (['.'] ∈ m.keys → ['.'] ∈ start.keys)
  Reaches path := (Path.ofText path).Descends
  Matches pattern := (Path.ofText pattern).Descends ∧ MatchesIn dir start pattern
  resolve_eq _ := rfl
  holds_eq := by
    rintro m _ path ⟨rfl, hm, -⟩ hpath
    exact Memory.holds_relocate hdir hm hpath
  glob_eq := by
    rintro m _ pattern ⟨rfl, hm, hdot⟩ ⟨hpattern, hliteral, hstart⟩
    exact Memory.glob_relocate hdir hliteral hm hpattern fun hmem => hstart (hdot hmem)
  read_eq := by
    rintro m _ path ⟨rfl, hm, -⟩ hpath
    change ((m.relocate dir).read (dir.under (Path.ofText path))).map Text.unifyNewlines =
      ((m.read (Path.ofText path)).map Text.unifyNewlines).mapError _
    rw [Memory.read, Memory.lookup_relocate hm hpath.1, Memory.read]
    cases m.files.lookup (Path.ofText path).text <;> rfl
  write_eq := by
    rintro m _ path contents ⟨rfl, hm, -⟩ hpath
    exact Memory.write_fst_alike rfl (Memory.mem_readOnly_relocate hm hpath.1) contents
  related_write := by
    rintro m _ path contents ⟨rfl, hm, hdot⟩ hpath
    refine Memory.write_snd_alike (R := fun m n => n = m.relocate dir ∧ m.IsRelative ∧
        (['.'] ∈ m.keys → ['.'] ∈ start.keys))
      (Memory.mem_readOnly_relocate hm hpath.1) ⟨rfl, hm, hdot⟩
      ⟨Memory.relocate_written hm hpath.1 _, hm.written hpath.1 _, fun hkey => ?_⟩
    rcases Memory.mem_keys_written.mp hkey with heq | hkey
    · exact absurd heq.symm (Path.text_ne_dot hpath)
    · exact hdot hkey

/-- **A document runs in a working directory as it runs without one**, on the moved files and with
every path in the directory. Where pairs are skipped by a pattern, the directory must have no
wildcards. -/
theorem document_relocate {dir : Path} {s : Text} {p : Progress Memory} (hdir : dir.parts ≠ [])
    (hstore : p.store.IsRelative)
    (hpaths : ∀ ps, Document.parse s = .ok ps → ∀ x ∈ ps, IsRelocatable x.1)
    (hglobs : ∀ ps, Document.parse s = .ok ps → ∀ x ∈ ps, ∀ pattern ∈ x.1.skipIfGlob,
      pattern ≠ [] → MatchesIn dir p.store pattern) :
    document (some dir) s (p.relocate dir) =
      ((document none s p).1.mapError (Failure.mapPath dir.under),
        (document none s p).2.relocate dir) := by
  let S := relocation hdir p.store
  have hstart : S.InStep p (p.relocate dir) := ⟨⟨rfl, hstore, id⟩, rfl, rfl⟩
  have hcovers : ∀ ps, Document.parse s = .ok ps → ∀ x ∈ ps, S.Covers x.1 := fun ps hps x hx =>
    have hrelative := hpaths ps hps x hx
    ⟨hrelative.target, hrelative.injections, fun pattern hpattern hne =>
      ⟨hrelative.glob pattern hpattern hne, hglobs ps hps x hx pattern hpattern hne⟩⟩
  have hprogress : ∀ {p' q'}, S.InStep p' q' → q' = p'.relocate dir := by
    rintro ⟨m, events, notes⟩ ⟨_, _, _⟩ ⟨⟨rfl, -, -⟩, rfl, rfl⟩
    rfl
  obtain ⟨e, p', q', hp, hq, hend⟩ | ⟨r, p', q', hp, hq, hend⟩ := S.document hcovers hstart
  · change document none s p = _ at hp
    change document (some dir) s (p.relocate dir) = _ at hq
    rw [hp, hq, hprogress hend]
    rfl
  · change document none s p = _ at hp
    change document (some dir) s (p.relocate dir) = _ at hq
    rw [hp, hq, hprogress hend]
    rfl

/-- A pair that is written and patches `m`, one that is skipped by a pattern, and one that stops
because `n` is not there. -/
def movedText : Text :=
  Text.unlines <| List.map Text.of
    ["---", "to: a/b", "injections:", "- into: m", "  append: true", "---", "x", "---", "to: c2",
      "skip_glob: c*", "---", "y", "---", "to: d", "injections:", "- into: n", "---", "z"]

/-- The pairs of `movedText`. -/
def movedPairs : List (Directive × Text) :=
  [(⟨['a', '/', 'b'], false, none, none, [⟨['m'], [], false, none, some .append⟩]⟩, ['x']),
    (⟨['c', '2'], false, some ['c', '*'], none, []⟩, ['y']),
    (⟨['d'], false, none, none, [⟨['n'], [], false, none, none⟩]⟩, ['z'])]

theorem document_relocate_stopping :
    let dir := Path.ofText (Text.of "/w")
    let start : Progress Memory :=
      ⟨⟨[(['m'], ['0']), (['c', '1'], []), (['.'], [])], [['e']], []⟩, [], []⟩
    (document none movedText start).1 = .error (.storage (.noTarget (Path.ofText ['n']))) ∧
      document (some dir) movedText (start.relocate dir) =
        ((document none movedText start).1.mapError (Failure.mapPath dir.under),
          (document none movedText start).2.relocate dir) := by
  intro dir start
  have hparse : Document.parse movedText = .ok movedPairs := by decide +kernel
  have hpaths : ∀ x ∈ movedPairs, IsRelocatable x.1 := by decide +kernel
  have hglobs : ∀ x ∈ movedPairs, ∀ pattern ∈ x.1.skipIfGlob, pattern ≠ [] →
      MatchesIn dir start.store pattern := by decide +kernel
  have hof : ∀ ps, Document.parse movedText = .ok ps → movedPairs = ps := fun ps hps => by
    simpa [hparse] using hps
  refine ⟨by decide +kernel, document_relocate (by decide +kernel) (by decide +kernel) ?_ ?_⟩
  · exact fun ps hps => hof ps hps ▸ hpaths
  · exact fun ps hps => hof ps hps ▸ hglobs

/-- A pair that is skipped by a pattern. -/
def matchedText : Text :=
  Text.unlines <| List.map Text.of ["---", "to: c", "skip_glob: b*", "---", "body"]

/-- The brackets in the name of a directory are read as a set of characters: a pair that is skipped
without the directory is written in it. -/
theorem document_relocate_bracketed :
    let dir := Path.ofText (Text.of "a[1]")
    let start : Progress Memory := ⟨⟨[(['b', '1'], ['x'])], [], []⟩, [], []⟩
    let d : Directive := ⟨['c'], false, some ['b', '*'], none, []⟩
    dir.parts ≠ [] ∧ start.store.IsRelative ∧
      Document.parse matchedText = .ok [(d, Text.of "body")] ∧ IsRelocatable d ∧
      (document none matchedText start).2.events = [⟨.skipped, Path.ofText ['c']⟩] ∧
      (document (some dir) matchedText (start.relocate dir)).2.events =
        [⟨.added, Path.ofText (Text.of "a[1]/c")⟩] := by
  intro dir start d
  decide +kernel

end Run

end Scaffold
