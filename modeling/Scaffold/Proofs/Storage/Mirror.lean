import Scaffold.Proofs.Storage.Disk
import Scaffold.Proofs.Storage.Memory
import Scaffold.Proofs.Text.Utf8
import Scaffold.Storage.Memory

/-!
# The same files in memory and on a disk

In memory files are kept under keys, and a directory is what a key goes on behind. On a disk there
is a tree. `Disk.Mirrors` says that the tree has the files of the memory and the directories above
them, and nothing else below the current directory. Then every question about a path has the same
answer in both, also where there is a directory.

A write keeps it so as long as the path is not above a file and not below one. In memory such a
write would do no harm, while on a disk there cannot be a file and a directory at one place.
`Disk.Fits` says of paths that this happens with none of them.

## Main definitions

* `Disk.Mirrors` — the tree has what the memory has
* `Disk.Fits` — files that can be on a disk together

## Main results

* `Disk.Mirrors.read_eq`, `Disk.Mirrors.holds_eq` — questions have the same answers
* `Disk.Mirrors.file_iff` — the files below the current directory
* `Disk.Mirrors.written`, `Disk.Mirrors.exists_write` — writes succeed, and keep the two the same
* `Disk.mirrors_ofFiles` — trees that are put together from files
-/

namespace Scaffold

/-- What the memory has at a path, as an entry of a disk. -/
inductive Memory.Shows (m : Memory) (path : Path) : Option DiskEntry → Prop
  | file {contents : Text} (hfile : m.files.lookup path.text = some contents)
      (hleaf : ∀ key ∈ m.keys, ¬Memory.below path.text <+: key) :
      Shows m path (some (.file (Text.encode contents)))
  | directory (hfile : path.text ∉ m.keys)
      (hbelow : ∃ key ∈ m.keys, Memory.below path.text <+: key) : Shows m path (some .directory)
  | nothing (hnone : m.holds path = false) : Shows m path none

/-- The tree below the current directory has the files of the memory, and the directories above
them. -/
structure Disk.Mirrors (d : Disk) (m : Memory) : Prop where
  current : d.entry? d.current = some .directory
  shows : ∀ path : Path, path.IsPlain → m.Shows path ( d.entry? (d.current ++ path.parts))
  /-- Files are kept under plain paths. -/
  plain : ∀ key ∈ m.keys, ∃ path : Path, path.IsPlain ∧ path.text = key
  /-- There are no files elsewhere. -/
  plain_of_file : ∀ parts bytes, d.entry? (d.current ++ parts) = some (.file bytes) →
    ∃ path : Path, path.IsPlain ∧ path.parts = parts
  /-- A tree has no protected files. -/
  unprotected : m.readOnly = []

/-- Plain paths none of which is above another. -/
structure Disk.Fits (paths : List Path) : Prop where
  plain : ∀ path ∈ paths, path.IsPlain
  apart : ∀ path ∈ paths, ∀ other ∈ paths, ¬path.IsAbove other

instance (paths : List Path) : Decidable (Disk.Fits paths) :=
  decidable_of_iff ((∀ path ∈ paths, path.IsPlain) ∧
      ∀ path ∈ paths, ∀ other ∈ paths, ¬path.IsAbove other)
    ⟨fun ⟨hplain, hapart⟩ => ⟨hplain, hapart⟩, fun ⟨hplain, hapart⟩ => ⟨hplain, hapart⟩⟩

namespace Disk.Mirrors

variable {d d' : Disk} {m m' : Memory} {path : Path} {contents : Text}

/-! ### Keys above and below -/

/-- The first components of a plain path. -/
theorem isPlain_upTo (h : path.IsPlain) {front : List Text} (hfront : front <+: path.parts)
    (hne : front ≠ []) : (path.upTo front hfront).IsPlain where
  descends := ⟨h.descends.1, hne⟩
  no_upward hin := h.no_upward (hfront.subset hin)
  no_null := by
    have hnull := h.no_null
    rw [Disk.hasNull, List.any_eq_false] at hnull ⊢
    exact fun part hpart => hnull part (hfront.subset hpart)

theorem below_prefix_iff {p q : Path} (hp : p.IsPlain) (hq : q.IsPlain) :
    Memory.below p.text <+: q.text ↔ p.IsAbove q := by
  rw [Memory.below_text hp.descends, Path.isAbove_iff hp.descends hq.descends]

/-- What is at or below a path is below the paths above it. -/
theorem below_upTo (h : path.IsPlain) {front : List Text} (hfront : front <+: path.parts)
    (hne : front ≠ []) (hshort : front ≠ path.parts) {key : Text}
    (hkey : key = path.text ∨ Memory.below path.text <+: key) :
    Memory.below (path.upTo front hfront).text <+: key := by
  have habove : (path.upTo front hfront).IsAbove path := ⟨hfront, hshort⟩
  have hpath := (below_prefix_iff (isPlain_upTo h hfront hne) h).mpr habove
  rcases hkey with rfl | hkey
  · exact hpath
  · rw [Memory.below_text h.descends] at hkey
    exact hpath.trans ((List.prefix_append _ _).trans hkey)

/-- A path at which there is something has a key at it or below it. -/
theorem exists_key {entry : DiskEntry} (hshow : m.Shows path (some entry)) :
    ∃ key ∈ m.keys, key = path.text ∨ Memory.below path.text <+: key := by
  cases hshow with
  | file hfile _ => exact ⟨_, Memory.mem_keys_of_lookup hfile, Or.inl rfl⟩
  | directory _ hbelow =>
    obtain ⟨key, hkey, hat⟩ := hbelow
    exact ⟨key, hkey, Or.inr hat⟩

/-! ### Questions -/

/-- Nothing is below a path unless there is a directory. -/
theorem not_below {found : Option DiskEntry} (hshow : m.Shows path found)
    (hfound : found ≠ some .directory) : ∀ key ∈ m.keys, ¬Memory.below path.text <+: key := by
  intro key hkey hbelow
  cases hshow with
  | file _ hleaf => exact hleaf key hkey hbelow
  | directory => exact hfound rfl
  | nothing hnone =>
    have hholds := Memory.holds_iff.mpr ⟨key, hkey, Or.inr hbelow⟩
    exact absurd hholds (by simp [hnone])

/-- Where the way is blocked there is no entry behind it. -/
theorem entry?_of_blocks (h : d.Mirrors m) (hpath : path.IsPlain) {found : Option DiskEntry}
    (hfound : found ≠ some .directory) (hblock : d.Blocks d.current path.parts found) :
    d.entry? (d.current ++ path.parts) = none := by
  obtain ⟨front, hfront, hshort, hentry⟩ := hblock
  have hne : front ≠ [] := by
    rintro rfl
    rw [List.append_nil, h.current] at hentry
    exact hfound hentry.symm
  have hshow : m.Shows (path.upTo front hfront) found :=
    hentry ▸ h.shows (path.upTo front hfront) (isPlain_upTo hpath hfront hne)
  cases hend : d.entry? (d.current ++ path.parts) with
  | none => rfl
  | some entry =>
    obtain ⟨key, hkey, hat⟩ := exists_key (hend ▸ h.shows path hpath)
    exact absurd (below_upTo hpath hfront hne hshort hat) (not_below hshow hfound key hkey)

/-- What is at a plain path is the entry at its place: nothing is behind a gap or a file. -/
theorem at?_eq (h : d.Mirrors m) (hpath : path.IsPlain) :
    d.at? path = d.entry? (d.current ++ path.parts) := by
  rw [at?, locate_of_relative hpath.descends.1]
  rcases walk_cases d d.current hpath.no_upward with ⟨-, hwalk⟩ | ⟨hblock, hwalk⟩ |
    ⟨bytes, hblock, hwalk⟩
  · rw [hwalk]
  · rw [hwalk, h.entry?_of_blocks hpath (by simp) hblock]
  · rw [hwalk, h.entry?_of_blocks hpath (by simp) hblock]

theorem holds_eq (h : d.Mirrors m) (hpath : path.IsPlain) : d.holds path = m.holds path := by
  have hshow := h.shows path hpath
  rw [Disk.holds, h.at?_eq hpath]
  generalize d.entry? (d.current ++ path.parts) = found at hshow ⊢
  cases hshow with
  | file hfile _ =>
    exact (Memory.holds_of_mem_keys (Memory.mem_keys_of_lookup hfile)).symm
  | directory _ hbelow =>
    obtain ⟨key, hkey, hat⟩ := hbelow
    exact (Memory.holds_iff.mpr ⟨key, hkey, Or.inr hat⟩).symm
  | nothing hnone => exact hnone.symm

theorem read_eq (h : d.Mirrors m) (hpath : path.IsPlain) : d.read path = m.read path := by
  have hnone : path.text ∉ m.keys → m.read path = .error (.notFound path) := by
    intro hkey
    have hlookup : m.files.lookup path.text = none := by
      rwa [← Memory.lookup_isSome_iff, Option.not_isSome_iff_eq_none] at hkey
    rw [Memory.read, hlookup]
  have hshow := h.shows path hpath
  rw [Disk.read, h.at?_eq hpath]
  generalize d.entry? (d.current ++ path.parts) = found at hshow ⊢
  cases hshow with
  | file hfile _ => simp [Memory.read, hfile]
  | directory hfile _ => exact (hnone hfile).symm
  | nothing hholds =>
    refine (hnone fun hkey => ?_).symm
    exact absurd (Memory.holds_of_mem_keys hkey) (by simp [hholds])

/-- **The files of the tree are those of the memory**, each at the place of its path. -/
theorem file_iff (h : d.Mirrors m) {parts : List Text} {bytes : List UInt8} :
    d.entry? (d.current ++ parts) = some (.file bytes) ↔
      ∃ path : Path, path.IsPlain ∧ path.parts = parts ∧
        ∃ contents, m.files.lookup path.text = some contents ∧ bytes = Text.encode contents := by
  constructor
  · intro hentry
    obtain ⟨path, hpath, rfl⟩ := h.plain_of_file parts bytes hentry
    refine ⟨path, hpath, rfl, ?_⟩
    have hshow := h.shows path hpath
    rw [hentry] at hshow
    cases hshow with
    | file hfile _ => exact ⟨_, hfile, rfl⟩
  · rintro ⟨path, hpath, rfl, contents, hfile, rfl⟩
    have hshow := h.shows path hpath
    generalize d.entry? (d.current ++ path.parts) = found at hshow ⊢
    cases hshow with
    | file hfile' _ => rw [Option.some.inj (hfile.symm.trans hfile')]
    | directory hnone _ => exact absurd (Memory.mem_keys_of_lookup hfile) hnone
    | nothing hnone =>
      have hholds := Memory.holds_of_mem_keys (Memory.mem_keys_of_lookup hfile)
      exact absurd hholds (by simp [hnone])

/-! ### Writes -/

/-- A path that is neither above a file nor below one. -/
def IsClear (m : Memory) (path : Path) : Prop :=
  ∀ other : Path, other.IsPlain → other.text ∈ m.keys →
    ¬path.IsAbove other ∧ ¬other.IsAbove path

theorem isWritable (h : d.Mirrors m) (hpath : path.IsPlain) (hclear : IsClear m path) :
    d.IsWritable path.parts where
  free front hfront hshort bytes hfile := by
    by_cases hne : front = []
    · rw [hne, List.append_nil, h.current] at hfile
      simp at hfile
    · have hplain := isPlain_upTo hpath hfront hne
      obtain ⟨other, hother, hparts, contents, hlookup, -⟩ := h.file_iff.mp hfile
      refine (hclear other hother (Memory.mem_keys_of_lookup hlookup)).2 ?_
      rw [Path.IsAbove, hparts]
      exact ⟨hfront, hshort⟩
  no_directory hdir := by
    have hshow := h.shows path hpath
    rw [hdir] at hshow
    cases hshow with
    | directory _ hbelow =>
      obtain ⟨key, hkey, hat⟩ := hbelow
      obtain ⟨other, hother, rfl⟩ := h.plain key hkey
      exact (hclear other hother hkey).1 ((below_prefix_iff hpath hother).mp hat)

theorem eq_of_parts_eq {p q : Path} (hp : p.IsPlain) (hq : q.IsPlain) (h : p.parts = q.parts) :
    p = q := by
  refine Path.text_injective ?_
  rw [Path.text_of_descends hp.descends, Path.text_of_descends hq.descends, h]

/-- What the memory has at another path stays what it was when a file is written that is clear of
the files before. -/
theorem shows_written (hpath : path.IsPlain) {q : Path} (hq : q.IsPlain)
    (hapart : ¬q.parts <+: path.parts) {found : Option DiskEntry} (h : m.Shows q found) :
    (m.written path contents).Shows q found := by
  have hne : q.text ≠ path.text := fun heq => hapart (Path.text_injective heq ▸ List.prefix_rfl)
  have hbelow : ¬Memory.below q.text <+: path.text :=
    fun hat => hapart ((below_prefix_iff hq hpath).mp hat).1
  cases h with
  | file hfile hleaf =>
    refine .file ((Memory.lookup_put_of_ne hne _ _).trans hfile) fun key hkey => ?_
    rcases Memory.mem_keys_written.mp hkey with rfl | hkey
    · exact hbelow
    · exact hleaf key hkey
  | directory hfile hdir =>
    obtain ⟨key, hkey, hat⟩ := hdir
    refine .directory (fun hin => ?_) ⟨key, Memory.keys_subset_written hkey, hat⟩
    exact (Memory.mem_keys_written.mp hin).elim hne hfile
  | nothing hnone =>
    refine .nothing (Bool.eq_false_iff.mpr fun hholds => ?_)
    rcases Memory.holds_written_iff.mp hholds with hold | heq | hat
    · exact absurd hold (by simp [hnone])
    · exact hne heq.symm
    · exact hbelow hat

/-- **A write keeps memory and tree the same.** -/
theorem written (h : d.Mirrors m) (hpath : path.IsPlain) (hclear : IsClear m path)
    (hw : d.Written path.parts (Text.encode contents) d') :
    d'.Mirrors (m.written path contents) where
  current := by
    rw [hw.current_eq, ← List.append_nil d.current]
    exact hw.above [] List.nil_prefix hpath.descends.2.symm
  unprotected := h.unprotected
  plain key hkey := by
    rcases Memory.mem_keys_written.mp hkey with rfl | hkey
    · exact ⟨path, hpath, rfl⟩
    · exact h.plain key hkey
  plain_of_file parts bytes hfile := by
    rw [hw.current_eq] at hfile
    by_cases hin : parts <+: path.parts
    · by_cases hend : parts = path.parts
      · exact ⟨path, hpath, hend.symm⟩
      · rw [hw.above parts hin hend] at hfile
        simp at hfile
    · rw [hw.entry?_eq hin] at hfile
      exact h.plain_of_file parts bytes hfile
  shows q hq := by
    rw [hw.current_eq]
    by_cases hin : q.parts <+: path.parts
    · by_cases hend : q.parts = path.parts
      · -- the file itself, with nothing below it
        obtain rfl := eq_of_parts_eq hq hpath hend
        rw [hw.file]
        refine .file (Memory.lookup_put_self _ _ _) fun key hkey hat => ?_
        rcases Memory.mem_keys_written.mp hkey with rfl | hkey
        · exact ((below_prefix_iff hq hq).mp hat).2 rfl
        · obtain ⟨other, hother, rfl⟩ := h.plain key hkey
          exact (hclear other hother hkey).1 ((below_prefix_iff hq hother).mp hat)
      · -- a directory above it, where no file was
        have habove : q.IsAbove path := ⟨hin, hend⟩
        rw [hw.above _ hin hend]
        refine .directory (fun hkey => ?_)
          ⟨path.text, Memory.mem_keys_written.mpr (Or.inl rfl),
            (below_prefix_iff hq hpath).mpr habove⟩
        rcases Memory.mem_keys_written.mp hkey with heq | hkey
        · exact hend (congrArg Path.parts (Path.text_injective heq))
        · exact (hclear q hq hkey).2 habove
    · rw [hw.entry?_eq hin]
      exact shows_written hpath hq hin (h.shows q hq)

/-- **A write succeeds in both places** where nothing is in its way. -/
theorem exists_write (h : d.Mirrors m) (hpath : path.IsPlain) (hclear : IsClear m path)
    (contents : Text) :
    ∃ d', d.write path contents = (.ok (), d') ∧
      m.write path contents = (.ok (), m.written path contents) ∧
      d'.Mirrors (m.written path contents) := by
  obtain ⟨d', hwrite, hwritten⟩ := Disk.exists_write hpath (h.isWritable hpath hclear) contents
  have hfree : path.text ∉ m.readOnly := by simp [h.unprotected]
  exact ⟨d', hwrite, Memory.write_of_not_mem hfree contents, h.written hpath hclear hwritten⟩

/-- Which writes are recorded does not matter. -/
theorem forgetWrites (h : d.Mirrors m) : d.Mirrors m.forgetWrites where
  current := h.current
  plain := h.plain
  plain_of_file := h.plain_of_file
  unprotected := h.unprotected
  shows path hpath := by
    have hshow := h.shows path hpath
    generalize d.entry? (d.current ++ path.parts) = found at hshow ⊢
    cases hshow with
    | file hfile hleaf => exact .file hfile hleaf
    | directory hfile hbelow => exact .directory hfile hbelow
    | nothing hnone => exact .nothing hnone

/-- Paths that fit on a disk together are clear of each other. -/
theorem isClear_of_fits {paths : List Path} (hfits : Fits paths)
    (hkeys : ∀ key ∈ m.keys, Path.ofText key ∈ paths) (hpath : path ∈ paths) : IsClear m path := by
  intro other _ hkey
  have hother : other ∈ paths := Path.ofText_text other ▸ hkeys _ hkey
  exact ⟨hfits.apart path hpath other hother, hfits.apart other hother path hpath⟩

end Disk.Mirrors

/-! ### Whole trees -/

namespace Disk

/-- The tree with some files of text put into it. -/
def withFiles (d : Disk) (files : List (Text × Text)) : Disk :=
  files.foldl (fun d file => d.withFile file.1 (Text.encode file.2)) d

theorem entry?_empty {parts : List Text} (h : parts ≠ []) :
    empty.entry? (empty.current ++ parts) = none := by
  simp [ entry?, empty, h]

theorem mirrors_empty : empty.Mirrors (Memory.ofFiles [] []) where
  current := by decide
  shows path hpath := by
    rw [entry?_empty hpath.descends.2]
    exact .nothing rfl
  plain := by simp [Memory.keys, Memory.ofFiles]
  plain_of_file parts bytes hfile := by
    by_cases hparts : parts = []
    · subst hparts
      exact absurd hfile (by simp [ entry?, empty])
    · rw [entry?_empty hparts] at hfile
      exact absurd hfile (Option.some_ne_none _).symm
  unprotected := rfl

theorem mirrors_withFiles {d : Disk} {files fs : List (Text × Text)} {paths : List Path}
    (hfits : Fits paths) (hkeys : ∀ key ∈ fs.map (·.1), Path.ofText key ∈ paths)
    (hfiles : ∀ file ∈ files, Path.ofText file.1 ∈ paths) (h : d.Mirrors ⟨fs, [], []⟩) :
    (d.withFiles files).Mirrors
      ⟨files.foldl (fun fs file => Memory.put (Path.ofText file.1).text file.2 fs) fs, [], []⟩ := by
  induction files generalizing d fs with
  | nil => exact h
  | cons file rest ih =>
    obtain ⟨name, contents⟩ := file
    rw [List.forall_mem_cons] at hfiles
    have hplain := hfits.plain _ hfiles.1
    have hclear := Mirrors.isClear_of_fits (m := ⟨fs, [], []⟩) hfits hkeys hfiles.1
    have hwritten := withFile_written hplain (h.isWritable hplain hclear) (Text.encode contents)
    refine ih (fun key hkey => ?_) hfiles.2 (h.written hplain hclear hwritten).forgetWrites
    rcases Memory.mem_keys_put.mp hkey with rfl | hkey
    · rw [Path.ofText_text]
      exact hfiles.1
    · exact hkeys key hkey

/-- **A tree put together from files that fit** mirrors the same files in memory. -/
theorem mirrors_ofFiles {files : List (Text × Text)}
    (hfits : Fits (files.map fun file => Path.ofText file.1)) :
    (empty.withFiles files).Mirrors (Memory.ofFiles files []) :=
  mirrors_withFiles hfits (by simp) (fun _ hfile => List.mem_map_of_mem hfile) mirrors_empty

end Disk

end Scaffold
