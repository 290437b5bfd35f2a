import Scaffold.Proofs.Glob
import Scaffold.Proofs.Storage.Memory

/-!
# Files moved into a directory

The same files as they are kept when all of them lie in a directory: each under its old key,
looked up there. What is asked about a path of the old files has its answer at the path looked up
in the directory.

A directory has to have a component. Then every key but one becomes the directory, a slash and the
old key; the one is the key `.`, of a file at the very place where paths are looked up, which
becomes the directory itself.

## Main results

* `Memory.holds_relocate`, `Memory.lookup_relocate`, `Memory.relocate_written` — one operation
* `Memory.glob_relocate` — patterns, in a directory without wildcards
-/

namespace Scaffold

/-- A key in a directory. -/
def movedKey (dir : Path) (key : Text) : Text := (dir.under (Path.ofText key)).text

/-- The text of a relative path. -/
def IsRelativeKey (key : Text) : Prop :=
  (Path.ofText key).text = key ∧ (Path.ofText key).isAbsolute = false

instance (key : Text) : Decidable (IsRelativeKey key) := inferInstanceAs (Decidable (_ ∧ _))

namespace Memory

/-- The files, protections and record of writes with every key in a directory. -/
def relocate (dir : Path) (m : Memory) : Memory where
  files := m.files.map fun file => (movedKey dir file.1, file.2)
  readOnly := m.readOnly.map (movedKey dir)
  writes := m.writes.map fun write => (movedKey dir write.1, write.2)

/-- Files that are all kept, and protected, under relative paths. -/
def IsRelative (m : Memory) : Prop :=
  (∀ key ∈ m.keys, IsRelativeKey key) ∧ ∀ key ∈ m.readOnly, IsRelativeKey key

instance (m : Memory) : Decidable m.IsRelative := inferInstanceAs (Decidable (_ ∧ _))

end Memory

/-! ### Keys -/

section

variable {dir p : Path} {key : Text}

theorem movedKey_text (p : Path) : movedKey dir p.text = (dir.under p).text := by
  rw [movedKey, Path.ofText_text]

theorem isRelativeKey_text (h : p.isAbsolute = false) : IsRelativeKey p.text := by
  simpa [IsRelativeKey] using h

/-- A relative key is that of a path with a component, or `.`. -/
theorem IsRelativeKey.cases (h : IsRelativeKey key) :
    (∃ q : Path, q.Descends ∧ key = q.text) ∨ key = ['.'] := by
  obtain ⟨htext, hrel⟩ := h
  by_cases hparts : (Path.ofText key).parts = []
  · exact Or.inr (by rw [← htext, Path.text_of_parts_eq_nil hrel hparts])
  · exact Or.inl ⟨Path.ofText key, ⟨hrel, hparts⟩, htext.symm⟩

theorem movedKey_dot : movedKey dir ['.'] = dir.text := by
  rw [movedKey, Path.under_of_parts_eq_nil rfl rfl]

/-- No two relative keys are moved to the same one. -/
theorem movedKey_eq_iff (h : IsRelativeKey key) (hp : p.isAbsolute = false) :
    movedKey dir key = (dir.under p).text ↔ key = p.text := by
  obtain ⟨htext, hrel⟩ := h
  rw [movedKey, ← htext, Path.ofText_text]
  refine ⟨fun heq => ?_, fun heq => ?_⟩
  · rw [(Path.under_inj hrel hp).mp (Path.text_injective heq)]
  · rw [Path.text_injective heq]

/-- What is below a path stays below it. -/
theorem below_under_prefix_iff (hdir : dir.parts ≠ []) (h : IsRelativeKey key) (hp : p.Descends) :
    Memory.below (dir.under p).text <+: movedKey dir key ↔ Memory.below p.text <+: key := by
  have hparts : (dir.under p).parts ≠ [] := by simp [Path.parts_under hp.1, hdir]
  rw [Memory.below_of_getLast?_ne (Path.getLast?_text_ne_slash hparts),
    Memory.below_of_getLast?_ne (Path.getLast?_text_ne_slash hp.2), Path.text_under hdir hp]
  rcases h.cases with ⟨q, hq, rfl⟩ | rfl
  · rw [movedKey_text, Path.text_under hdir hq, List.append_assoc, List.prefix_append_right_inj,
      List.cons_append, List.cons_prefix_cons]
    simp
  · -- nothing is below a path and also at the place it is looked up from
    have hpos := List.length_pos_iff.mpr (Path.text_ne_nil p)
    rw [movedKey_dot]
    constructor <;> intro hpre <;> have hle := hpre.length_le
    · simp only [List.length_append, List.length_cons, List.length_nil] at hle
      omega
    · simp only [List.length_append, List.length_cons, List.length_nil] at hle
      omega

/-- In a directory without wildcards a pattern matches what it matched before. The place where
paths are looked up is then no longer below itself, and is matched no more. -/
theorem isMatch_movedKey (hdir : dir.parts ≠ []) (hliteral : Glob.hasWildcard dir.text = false)
    (hp : p.Descends) (h : IsRelativeKey key)
    (hdot : key = ['.'] → Glob.isMatch p.text ['.'] = false) :
    Glob.isMatch (dir.under p).text (movedKey dir key) = Glob.isMatch p.text key := by
  rw [Path.text_under hdir hp]
  rcases h.cases with ⟨q, hq, rfl⟩ | rfl
  · have hslash : Glob.hasWildcard (dir.text ++ ['/']) = false := by
      simpa [Glob.hasWildcard] using hliteral
    have hmatch := Glob.isMatch_append_of_literal hslash p.text q.text
    rwa [← List.append_cons, ← List.append_cons, ← Path.text_under hdir hq, ← movedKey_text]
      at hmatch
  · have hnil := Glob.isMatch_append_of_literal hliteral ('/' :: p.text) []
    rw [List.append_nil] at hnil
    rw [movedKey_dot, hnil, hdot rfl]
    simp [Glob.isMatch, Glob.parts, Glob.partsFrom, Glob.matchesParts]

end

namespace Memory

variable {dir path : Path} {m : Memory} {contents : Text}

/-! ### Operations -/

theorem keys_relocate (dir : Path) (m : Memory) :
    (m.relocate dir).keys = m.keys.map (movedKey dir) := by
  simp [keys, relocate]

theorem exists_mem_keys_relocate {test : Text → Prop} :
    (∃ key ∈ (m.relocate dir).keys, test key) ↔ ∃ key ∈ m.keys, test (movedKey dir key) := by
  simp only [keys_relocate, List.mem_map]
  constructor
  · rintro ⟨_, ⟨key, hkey, rfl⟩, htest⟩
    exact ⟨key, hkey, htest⟩
  · rintro ⟨key, hkey, htest⟩
    exact ⟨_, ⟨key, hkey, rfl⟩, htest⟩

theorem mem_readOnly_relocate (hm : m.IsRelative) (hpath : path.isAbsolute = false) :
    (dir.under path).text ∈ (m.relocate dir).readOnly ↔ path.text ∈ m.readOnly := by
  simp only [relocate, List.mem_map]
  constructor
  · rintro ⟨key, hkey, heq⟩
    rwa [← (movedKey_eq_iff (hm.2 key hkey) hpath).mp heq]
  · exact fun hmem => ⟨_, hmem, movedKey_text path⟩

theorem holds_relocate (hdir : dir.parts ≠ []) (hm : m.IsRelative) (hpath : path.Descends) :
    (m.relocate dir).holds (dir.under path) = m.holds path := by
  rw [Bool.eq_iff_iff, holds_iff, holds_iff, exists_mem_keys_relocate]
  refine exists_congr fun key => and_congr_right fun hkey => ?_
  rw [movedKey_eq_iff (hm.1 key hkey) hpath.1, below_under_prefix_iff hdir (hm.1 key hkey) hpath]

/-- Relative keys are told apart after the move as before it. -/
theorem IsRelative.movedKey_inj (hm : m.IsRelative) (hpath : path.isAbsolute = false) :
    ∀ key ∈ m.files.map (·.1), movedKey dir key = movedKey dir path.text ↔ key = path.text :=
  fun key hkey => by rw [movedKey_text, movedKey_eq_iff (hm.1 key hkey) hpath]

theorem lookup_relocate (hm : m.IsRelative) (hpath : path.isAbsolute = false) :
    (m.relocate dir).files.lookup (dir.under path).text = m.files.lookup path.text := by
  rw [← movedKey_text]
  exact lookup_map_key (hm.movedKey_inj hpath)

theorem relocate_written (hm : m.IsRelative) (hpath : path.isAbsolute = false) (contents : Text) :
    (m.relocate dir).written (dir.under path) contents =
      (m.written path contents).relocate dir := by
  rw [written, ← movedKey_text]
  simp only [relocate, written, put_map_key (hm.movedKey_inj hpath), List.map_append,
    List.map_cons, List.map_nil]

theorem IsRelative.written (hm : m.IsRelative) (hpath : path.isAbsolute = false) (contents : Text) :
    (m.written path contents).IsRelative := by
  refine ⟨fun key hkey => ?_, hm.2⟩
  rcases mem_keys_written.mp hkey with rfl | hkey
  · exact isRelativeKey_text hpath
  · exact hm.1 key hkey

theorem glob_relocate (hdir : dir.parts ≠ []) (hliteral : Glob.hasWildcard dir.text = false)
    (hm : m.IsRelative) (hpath : path.Descends)
    (hdot : ['.'] ∈ m.keys → Glob.isMatch path.text ['.'] = false) :
    ((m.relocate dir).glob (dir.under path).text).isEmpty = (m.glob path.text).isEmpty := by
  refine glob_isEmpty_congr ?_
  rw [exists_mem_keys_relocate]
  refine exists_congr fun key => and_congr_right fun hkey => ?_
  rw [isMatch_movedKey hdir hliteral hpath (hm.1 key hkey) fun heq => hdot (heq ▸ hkey)]

end Memory

end Scaffold
