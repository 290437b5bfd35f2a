import Scaffold.Proofs.Path
import Scaffold.Storage.Disk

/-!
# Walking and writing on a disk

What the operations of a disk do is said by the entries at places alone. A walk along components
arrives unless it meets a place on its way that is no directory, so making directories succeeds
unless there is a file on the way; then there are directories on the way, and every other place is
as it was. A write puts a file at the end.

Components that lead upwards are left out, and so a path stays below the place it begins at and
its components are what stands at the places on its way.

## Main definitions

* `Path.IsPlain` — a relative path that stays below where it is looked up
* `Disk.Made`, `Disk.Written` — what making directories and writing a file come to

## Main results

* `Disk.walk_cases` — the three ways for a walk to end
* `Disk.exists_makeAll` — directories are made unless there is a file on the way
* `Disk.exists_write`, `Disk.withFile_written` — so a file is written
-/

namespace Scaffold

/-- A relative path with components that are names: none of them leads upwards, and none holds the
null character. -/
structure Path.IsPlain (p : Path) : Prop where
  descends : p.Descends
  no_upward : ['.', '.'] ∉ p.parts
  no_null : Disk.hasNull p = false

theorem Path.isPlain_iff {p : Path} :
    p.IsPlain ↔ p.Descends ∧ ['.', '.'] ∉ p.parts ∧ Disk.hasNull p = false :=
  ⟨fun h => ⟨h.descends, h.no_upward, h.no_null⟩, fun ⟨h, h', h''⟩ => ⟨h, h', h''⟩⟩

instance (p : Path) : Decidable p.IsPlain := decidable_of_iff _ Path.isPlain_iff.symm

namespace Disk

variable {d d' : Disk} {place parts front : List Text} {path : Path} {entry : DiskEntry}
  {bytes : List UInt8}

/-! ### Entries -/

theorem lookup_filter_ne {entries : List (List Text × DiskEntry)} {q : List Text}
    (hne : q ≠ place) :
    (entries.filter fun e => decide (e.1 ≠ place)).lookup q = entries.lookup q := by
  induction entries with
  | nil => rfl
  | cons e rest ih =>
    obtain ⟨p, x⟩ := e
    by_cases hp : p = place
    · have hq : (q == p) = false := beq_eq_false_iff_ne.mpr (hp ▸ hne)
      rw [List.filter_cons_of_neg (by simp [hp]), ih, List.lookup_cons, hq]
    · rw [List.filter_cons_of_pos (by simp [hp]), List.lookup_cons, List.lookup_cons, ih]

theorem lookup_filter_self (entries : List (List Text × DiskEntry)) (place : List Text) :
    (entries.filter fun e => decide (e.1 ≠ place)).lookup place = none := by
  rw [List.lookup_eq_none_iff]
  intro e he
  have hne : e.1 ≠ place := by simpa using (List.mem_filter.mp he).2
  exact bne_iff_ne.mpr hne.symm

theorem entry?_put_self (hplace : place ≠ []) :
    Disk.entry? (d.put place entry) place = some entry := by
  have hempty : place.isEmpty = false := List.isEmpty_eq_false_iff.mpr hplace
  simp only [ entry?, put, hempty, Bool.false_eq_true, if_false, List.lookup_append,
    lookup_filter_self, Option.none_or]
  simp

theorem entry?_put_of_ne {q : List Text} (hne : q ≠ place) :
    Disk.entry? (d.put place entry) q = d.entry? q := by
  simp only [ entry?, put, List.lookup_append, lookup_filter_ne hne]
  have hlast : List.lookup q [(place, entry)] = none := by
    simp [List.lookup_cons, beq_eq_false_iff_ne.mpr hne]
  rw [hlast, Option.or_none]

/-! ### Walks -/

/-- There are directories all the way from a place along components, up to the last one. -/
def Leads (d : Disk) (place parts : List Text) : Prop :=
  ∀ front, front <+: parts → front ≠ parts → d.entry? (place ++ front) = some .directory

theorem leads_cons_iff {part : Text} :
    d.Leads place (part :: parts) ↔
      d.entry? place = some .directory ∧ d.Leads (place ++ [part]) parts := by
  constructor
  · intro h
    refine ⟨by simpa using h [] List.nil_prefix (List.cons_ne_nil _ _).symm, ?_⟩
    intro front hfront hne
    have hnext := h (part :: front) (List.cons_prefix_cons.mpr ⟨rfl, hfront⟩) (by simpa using hne)
    rwa [← List.append_cons]
  · rintro ⟨hhere, hrest⟩ front hfront hne
    cases front with
    | nil => simpa using hhere
    | cons first more =>
      obtain ⟨rfl, hmore⟩ := List.cons_prefix_cons.mp hfront
      rw [List.append_cons]
      exact hrest more hmore (by simpa using hne)

/-- Something is on the way from a place along components that is no directory. -/
def Blocks (d : Disk) (place parts : List Text) (found : Option DiskEntry) : Prop :=
  ∃ front, front <+: parts ∧ front ≠ parts ∧ d.entry? (place ++ front) = found

theorem Blocks.cons {part : Text} {found : Option DiskEntry}
    (h : d.Blocks (place ++ [part]) parts found) : d.Blocks place (part :: parts) found := by
  obtain ⟨front, hfront, hne, hfound⟩ := h
  refine ⟨part :: front, List.cons_prefix_cons.mpr ⟨rfl, hfront⟩, by simpa using hne, ?_⟩
  rwa [← List.append_cons] at hfound

/-- **A walk arrives, or meets nothing, or meets a file.** -/
theorem walk_cases (d : Disk) (place : List Text) (hup : ['.', '.'] ∉ parts) :
    (d.Leads place parts ∧ d.walk place parts = .ok (place ++ parts)) ∨
      (d.Blocks place parts none ∧ d.walk place parts = .error .missing) ∨
      ∃ bytes, d.Blocks place parts (some (.file bytes)) ∧
        d.walk place parts = .error .notDirectory := by
  induction parts generalizing place with
  | nil =>
    refine Or.inl ⟨fun front hfront hne => ?_, by rw [walk, List.append_nil]⟩
    exact absurd (List.prefix_nil.mp hfront) hne
  | cons part rest ih =>
    rw [List.mem_cons, not_or] at hup
    have hstep : step place part = place ++ [part] := if_neg (Ne.symm hup.1)
    have hself : ∀ found, d.entry? place = found → d.Blocks place (part :: rest) found :=
      fun found hfound => ⟨[], List.nil_prefix, (List.cons_ne_nil _ _).symm, by simpa using hfound⟩
    cases hhere : d.entry? place with
    | none => exact Or.inr (Or.inl ⟨hself none hhere, by rw [walk, hhere]⟩)
    | some entry =>
      cases entry with
      | file bytes => exact Or.inr (Or.inr ⟨bytes, hself _ hhere, by rw [walk, hhere]⟩)
      | directory =>
        have hwalk : d.walk place (part :: rest) = d.walk (place ++ [part]) rest := by
          rw [walk, hhere, ← hstep]
        rw [hwalk, leads_cons_iff]
        rcases ih (place ++ [part]) hup.2 with ⟨hlead, hok⟩ | ⟨hblock, herr⟩ |
          ⟨bytes, hblock, herr⟩
        · exact Or.inl ⟨⟨hhere, hlead⟩, by rwa [← List.append_cons] at hok⟩
        · exact Or.inr (Or.inl ⟨hblock.cons, herr⟩)
        · exact Or.inr (Or.inr ⟨bytes, hblock.cons, herr⟩)

theorem walk_of_leads (hup : ['.', '.'] ∉ parts) (h : d.Leads place parts) :
    d.walk place parts = .ok (place ++ parts) := by
  have hclear : ∀ found, found ≠ some .directory → ¬d.Blocks place parts found := by
    rintro found hne ⟨front, hfront, hshort, hfound⟩
    exact hne (hfound.symm.trans (h front hfront hshort))
  rcases walk_cases d place hup with ⟨-, hok⟩ | ⟨hblock, -⟩ | ⟨bytes, hblock, -⟩
  · exact hok
  · exact absurd hblock (hclear none (by simp))
  · exact absurd hblock (hclear _ (by simp))

theorem locate_of_relative (hrel : path.isAbsolute = false) :
    d.locate path = d.walk d.current path.parts := by
  rw [locate, hrel, if_neg Bool.false_ne_true]

/-! ### Making directories -/

/-- What making directories along components comes to: they are there, and everything else is as it
was. -/
structure Made (d : Disk) (parts : List Text) (d' : Disk) : Prop where
  current_eq : d'.current = d.current
  directory : ∀ front, front <+: parts → d'.entry? (d.current ++ front) = some .directory
  other : ∀ q, (∀ front, front <+: parts → q ≠ d.current ++ front) → d'.entry? q = d.entry? q

/-- Nothing on the way along components, nor at its end, is a file. -/
def IsFree (d : Disk) (parts : List Text) : Prop :=
  ∀ front, front <+: parts → ∀ bytes, d.entry? (d.current ++ front) ≠ some (.file bytes)

theorem exists_makeOne (hrel : path.isAbsolute = false) (hup : ['.', '.'] ∉ path.parts)
    (hlead : d.Leads d.current path.parts) (hfree : d.IsFree path.parts) :
    ∃ d', d.makeOne path = .ok d' ∧ d.Made path.parts d' := by
  have hlocate : d.locate path = .ok (d.current ++ path.parts) := by
    rw [locate_of_relative hrel, walk_of_leads hup hlead]
  have hothers : ∀ q, (∀ front, front <+: path.parts → q ≠ d.current ++ front) →
      q ≠ d.current ++ path.parts := fun q hq => hq _ List.prefix_rfl
  rw [makeOne, hlocate]
  dsimp only
  cases hend : d.entry? (d.current ++ path.parts) with
  | none =>
    have hne : d.current ++ path.parts ≠ [] := by
      intro hnil
      rw [hnil] at hend
      exact absurd hend (by simp [ entry?])
    refine ⟨_, rfl, rfl, fun front hfront => ?_, fun q hq => entry?_put_of_ne (hothers q hq)⟩
    by_cases hshort : front = path.parts
    · rw [hshort, entry?_put_self hne]
    · rw [entry?_put_of_ne (by simpa using hshort), hlead front hfront hshort]
  | some entry =>
    cases entry with
    | file bytes => exact absurd hend (hfree _ List.prefix_rfl bytes)
    | directory =>
      refine ⟨d, rfl, rfl, fun front hfront => ?_, fun _ _ => rfl⟩
      by_cases hshort : front = path.parts
      · rw [hshort, hend]
      · exact hlead front hfront hshort

theorem Made.isFree (h : d.Made front d') (hfree : d.IsFree parts) : d'.IsFree parts := by
  intro more hmore bytes
  rw [h.current_eq]
  by_cases hin : more <+: front
  · rw [h.directory more hin]
    simp
  · have hother : ∀ x, x <+: front → d.current ++ more ≠ d.current ++ x := by
      intro x hx heq
      exact hin (List.append_cancel_left heq ▸ hx)
    rw [h.other _ hother]
    exact hfree more hmore bytes

/-- Directories made along some components, and then along more of them. -/
theorem Made.trans {d₁ d₂ : Disk} (h : d.Made front d₁) (h' : d₁.Made parts d₂)
    (hfront : front <+: parts) : d.Made parts d₂ where
  current_eq := h'.current_eq.trans h.current_eq
  directory := h.current_eq ▸ h'.directory
  other q hq := by
    rw [h'.other q (h.current_eq ▸ hq), h.other q fun more hmore => hq more (hmore.trans hfront)]

/-- The way to a place leads through the place above it. -/
theorem prefix_dropLast (h : front <+: parts) (hne : front ≠ parts) : front <+: parts.dropLast := by
  refine List.prefix_of_prefix_length_le h (List.dropLast_prefix _) ?_
  have hlt : front.length < parts.length :=
    Nat.lt_of_le_of_ne h.length_le fun heq => hne (h.eq_of_length heq)
  rw [List.length_dropLast]
  omega

/-- With the directory above it made, a directory is made unless there is a file. -/
theorem Made.exists_makeOne {d₁ : Disk} (h : d.Made path.parent.parts d₁)
    (hrel : path.isAbsolute = false) (hup : ['.', '.'] ∉ path.parts)
    (hfree : d.IsFree path.parts) :
    ∃ d₂, d₁.makeOne path = .ok d₂ ∧ d.Made path.parts d₂ := by
  have hparent : path.parent.parts = path.parts.dropLast := rfl
  have hlead : d₁.Leads d₁.current path.parts := by
    intro front hfront hshort
    rw [h.current_eq]
    refine h.directory front ?_
    rw [hparent]
    exact prefix_dropLast hfront hshort
  obtain ⟨d₂, hmake, hmade⟩ := Disk.exists_makeOne hrel hup hlead (h.isFree hfree)
  exact ⟨d₂, hmake, h.trans hmade (List.dropLast_prefix _)⟩

/-- **Directories are made unless there is a file on the way.** -/
theorem exists_makeAll {fuel : Nat} (hfuel : path.parts.length < fuel)
    (hrel : path.isAbsolute = false) (hup : ['.', '.'] ∉ path.parts)
    (hfree : d.IsFree path.parts) :
    ∃ d', makeAll fuel d path = (true, d') ∧ d.Made path.parts d' := by
  induction fuel generalizing path with
  | zero => exact absurd hfuel (Nat.not_lt_zero _)
  | succ fuel ih =>
    rcases walk_cases d d.current hup with ⟨hlead, -⟩ | ⟨hblock, hwalk⟩ |
      ⟨bytes, ⟨front, hfront, -, hfile⟩, -⟩
    · obtain ⟨d', hmake, hmade⟩ := exists_makeOne hrel hup hlead hfree
      exact ⟨d', by rw [makeAll, hmake], hmade⟩
    · -- the directory above is made first, and then there is nothing missing on the way
      have hmissing : d.makeOne path = .error .missing := by
        rw [makeOne, locate_of_relative hrel, hwalk]
      have hne : path.parts ≠ [] := by
        rintro hnil
        obtain ⟨front, hfront, hshort, -⟩ := hblock
        rw [hnil] at hfront hshort
        exact hshort (List.prefix_nil.mp hfront)
      have hparent : path.parent.parts = path.parts.dropLast := rfl
      have hsub : path.parent.parts <+: path.parts := hparent ▸ List.dropLast_prefix _
      have hlength : path.parent.parts.length < fuel := by
        have hpos := List.length_pos_iff.mpr hne
        rw [hparent, List.length_dropLast]
        omega
      obtain ⟨d₁, hmake, hmade⟩ := ih hlength hrel (fun hin => hup (hsub.subset hin))
        fun front hfront => hfree front (hfront.trans hsub)
      obtain ⟨d₂, hlast, hmade₂⟩ := hmade.exists_makeOne hrel hup hfree
      refine ⟨d₂, ?_, hmade₂⟩
      rw [makeAll, hmissing]
      simp only [List.isEmpty_eq_false_iff.mpr hne, Bool.false_eq_true, if_false, hmake, hlast]
    · exact absurd hfile (hfree front hfront bytes)

/-! ### Writing a file -/

/-- What writing a file along components comes to: it is there, below directories, and everything
else is as it was. -/
structure Written (d : Disk) (parts : List Text) (bytes : List UInt8) (d' : Disk) : Prop where
  current_eq : d'.current = d.current
  file : d'.entry? (d.current ++ parts) = some (.file bytes)
  above : ∀ front, front <+: parts → front ≠ parts →
    d'.entry? (d.current ++ front) = some .directory
  other : ∀ q, (∀ front, front <+: parts → q ≠ d.current ++ front) → d'.entry? q = d.entry? q

theorem Written.entry?_eq {more : List Text} (h : d.Written parts bytes d')
    (hmore : ¬more <+: parts) : d'.entry? (d.current ++ more) = d.entry? (d.current ++ more) := by
  refine h.other _ fun front hfront heq => hmore ?_
  rwa [List.append_cancel_left heq]

/-- A file can be written along components: nothing above it is a file, and it is no directory
itself. -/
structure IsWritable (d : Disk) (parts : List Text) : Prop where
  free : ∀ front, front <+: parts → front ≠ parts → ∀ bytes,
    d.entry? (d.current ++ front) ≠ some (.file bytes)
  no_directory : d.entry? (d.current ++ parts) ≠ some .directory

/-- The directories above a path are made, and then there is a place for the file. -/
theorem exists_makeAll_parent (hpath : path.IsPlain) (hw : d.IsWritable path.parts) :
    ∃ d₁, makeAll (path.parts.length + 1) d path.parent = (true, d₁) ∧
      d₁.locate path = .ok (d.current ++ path.parts) ∧
      d₁.entry? (d.current ++ path.parts) ≠ some .directory ∧
      ∀ bytes, d.Written path.parts bytes (d₁.put (d.current ++ path.parts) (.file bytes)) := by
  have hne : path.parts ≠ [] := hpath.descends.2
  have hparent : path.parent.parts = path.parts.dropLast := rfl
  have hrel : path.parent.isAbsolute = false := hpath.descends.1
  have hup : ['.', '.'] ∉ path.parent.parts :=
    fun hin => hpath.no_upward ((List.dropLast_subset _) hin)
  have hshorter : ∀ front, front <+: path.parts.dropLast → front ≠ path.parts := by
    intro front hfront heq
    have hle := heq ▸ hfront.length_le
    have hpos := List.length_pos_iff.mpr hne
    rw [List.length_dropLast] at hle
    omega
  have hfuel : path.parent.parts.length < path.parts.length + 1 := by
    rw [hparent, List.length_dropLast]
    omega
  obtain ⟨d₁, hmake, hmade⟩ := exists_makeAll hfuel hrel hup fun front hfront =>
    hw.free front (hfront.trans (List.dropLast_prefix _)) (hshorter front hfront)
  rw [hparent] at hmade
  have hlead : d₁.Leads d.current path.parts := fun front hfront hshort =>
    hmade.directory front (prefix_dropLast hfront hshort)
  have hsame : d₁.entry? (d.current ++ path.parts) = d.entry? (d.current ++ path.parts) :=
    hmade.other _ fun front hfront heq => hshorter front hfront (List.append_cancel_left heq).symm
  refine ⟨d₁, hmake, ?_, hsame ▸ hw.no_directory, fun bytes => ?_⟩
  · rw [locate_of_relative hpath.descends.1, hmade.current_eq, walk_of_leads hpath.no_upward hlead]
  · have hplace : d.current ++ path.parts ≠ [] := by simp [hne]
    refine ⟨hmade.current_eq, entry?_put_self hplace, fun front hfront hshort => ?_,
      fun q hq => ?_⟩
    · rw [entry?_put_of_ne (by simpa using hshort), hlead front hfront hshort]
    · rw [entry?_put_of_ne (hq _ List.prefix_rfl)]
      exact hmade.other q fun front hfront => hq front (hfront.trans (List.dropLast_prefix _))

theorem hasNull_parent (h : hasNull path = false) : hasNull path.parent = false := by
  rw [hasNull, List.any_eq_false] at h ⊢
  exact fun part hpart => h part (List.dropLast_subset _ hpart)

/-- **A file is written** unless a file is above it or it is a directory. -/
theorem exists_write (hpath : path.IsPlain) (hw : d.IsWritable path.parts) (contents : Text) :
    ∃ d', d.write path contents = (.ok (), d') ∧
      d.Written path.parts (Text.encode contents) d' := by
  obtain ⟨d₁, hmake, hlocate, hend, hwritten⟩ := exists_makeAll_parent hpath hw
  refine ⟨_, ?_, hwritten _⟩
  rw [write, hasNull_parent hpath.no_null, hpath.no_null, hmake]
  -- what is at the end is no directory, by `hend`, and so the last alternative is taken
  simp only [Bool.false_eq_true, if_false, hlocate]

/-- The same for a tree that is put together file by file. -/
theorem withFile_written {name : Text} (hpath : (Path.ofText name).IsPlain)
    (hw : d.IsWritable (Path.ofText name).parts) (bytes : List UInt8) :
    d.Written (Path.ofText name).parts bytes (d.withFile name bytes) := by
  obtain ⟨d₁, hmake, hlocate, -, hwritten⟩ := exists_makeAll_parent hpath hw
  have hwith : d.withFile name bytes =
      d₁.put (d.current ++ (Path.ofText name).parts) (.file bytes) := by
    rw [withFile]
    simp only [hmake, hlocate]
  rw [hwith]
  exact hwritten bytes

end Disk

end Scaffold
