import Scaffold.Proofs.Path
import Scaffold.Storage.Memory

/-!
# What a write does to files in memory

A write changes the file it is about, and no other; no write takes a file away. Whether anything
is at a path, and whether a pattern matches, depends on the keys alone, and so both can only
become true as files are written.

## Main results

* `Memory.lookup_put_self`, `Memory.lookup_put_of_ne`, `Memory.mem_keys_put` — one write
* `Memory.put_of_lookup` — writing what is there already changes nothing
* `Memory.holds_mono`, `Memory.glob_text_ne_nil_iff` — existence stays, and matches are in the keys
-/

namespace Scaffold

namespace Memory

variable {m m' : Memory} {path : Path} {contents : Text} {key : Text}

/-! ### Files under keys -/

theorem lookup_put_self (key contents : Text) (files : List (Text × Text)) :
    (put key contents files).lookup key = some contents := by
  induction files with
  | nil => simp [put]
  | cons file rest ih =>
    obtain ⟨k, c⟩ := file
    by_cases hk : k = key
    · simp [put, hk]
    · rw [put, if_neg hk, List.lookup_cons, beq_eq_false_iff_ne.mpr (Ne.symm hk)]
      exact ih

theorem lookup_put_of_ne {key' : Text} (hne : key' ≠ key) (contents : Text)
    (files : List (Text × Text)) : (put key contents files).lookup key' = files.lookup key' := by
  induction files with
  | nil => simp [put, List.lookup_cons, beq_eq_false_iff_ne.mpr hne]
  | cons file rest ih =>
    obtain ⟨k, c⟩ := file
    by_cases hk : k = key
    · subst hk
      rw [put, if_pos rfl, List.lookup_cons, List.lookup_cons, beq_eq_false_iff_ne.mpr hne]
    · rw [put, if_neg hk, List.lookup_cons, List.lookup_cons, ih]

theorem lookup_put (key contents : Text) (files : List (Text × Text)) (key' : Text) :
    (put key contents files).lookup key' =
      if key' = key then some contents else files.lookup key' := by
  split
  · rename_i heq
    rw [heq, lookup_put_self]
  · rename_i hne
    exact lookup_put_of_ne hne _ _

/-- Writing what a file holds already changes nothing, not even the order of the files. -/
theorem put_of_lookup {files : List (Text × Text)} (h : files.lookup key = some contents) :
    put key contents files = files := by
  induction files with
  | nil => simp at h
  | cons file rest ih =>
    obtain ⟨k, c⟩ := file
    by_cases hk : k = key
    · subst hk
      simp only [List.lookup_cons, beq_self_eq_true, Option.some.injEq] at h
      rw [put, if_pos rfl, h]
    · rw [List.lookup_cons, beq_eq_false_iff_ne.mpr (Ne.symm hk)] at h
      rw [put, if_neg hk, ih h]

theorem mem_keys_put {key' : Text} {files : List (Text × Text)} :
    key' ∈ (put key contents files).map (·.1) ↔ key' = key ∨ key' ∈ files.map (·.1) := by
  induction files with
  | nil => simp [put]
  | cons file rest ih =>
    obtain ⟨k, c⟩ := file
    by_cases hk : k = key
    · simp [put, hk]
    · rw [put, if_neg hk, List.map_cons, List.mem_cons, ih, List.map_cons, List.mem_cons]
      exact or_left_comm

/-- Files found under keys that are renamed without confusion are those found under the old ones. -/
theorem lookup_map_key {f : Text → Text} {files : List (Text × Text)}
    (hf : ∀ k ∈ files.map (·.1), f k = f key ↔ k = key) :
    (files.map fun file => (f file.1, file.2)).lookup (f key) = files.lookup key := by
  induction files with
  | nil => rfl
  | cons file rest ih =>
    obtain ⟨k, c⟩ := file
    rw [List.map_cons, List.forall_mem_cons] at hf
    rw [List.map_cons, List.lookup_cons, List.lookup_cons, ih hf.2]
    by_cases hk : k = key
    · simp [hk]
    · rw [beq_eq_false_iff_ne.mpr (Ne.symm hk),
        beq_eq_false_iff_ne.mpr fun heq => hk (hf.1.mp heq.symm)]

theorem put_map_key {f : Text → Text} {files : List (Text × Text)}
    (hf : ∀ k ∈ files.map (·.1), f k = f key ↔ k = key) :
    put (f key) contents (files.map fun file => (f file.1, file.2)) =
      (put key contents files).map fun file => (f file.1, file.2) := by
  induction files with
  | nil => rfl
  | cons file rest ih =>
    obtain ⟨k, c⟩ := file
    rw [List.map_cons, List.forall_mem_cons] at hf
    by_cases hk : k = key
    · simp [put, hk]
    · have hne : ¬f k = f key := fun heq => hk (hf.1.mp heq)
      rw [List.map_cons, put, put, if_neg hne, if_neg hk, ih hf.2]
      rfl

theorem mem_keys_of_lookup (h : m.files.lookup key = some contents) : key ∈ m.keys := by
  obtain ⟨before, after, hfiles, -⟩ := List.lookup_eq_some_iff.mp h
  simp [keys, hfiles]

theorem lookup_isSome_iff : (m.files.lookup key).isSome = true ↔ key ∈ m.keys := by
  rw [List.lookup_isSome_iff, keys, List.mem_map]
  exact ⟨fun ⟨file, hfile, heq⟩ => ⟨file, hfile, (eq_of_beq heq).symm⟩,
    fun ⟨file, hfile, heq⟩ => ⟨file, hfile, beq_iff_eq.mpr heq.symm⟩⟩

/-! ### One write -/

theorem mem_keys_written : key ∈ (m.written path contents).keys ↔ key = path.text ∨ key ∈ m.keys :=
  mem_keys_put

theorem keys_subset_written : m.keys ⊆ (m.written path contents).keys :=
  fun _ hk => mem_keys_written.mpr (Or.inr hk)

theorem write_of_mem (h : path.text ∈ m.readOnly) (contents : Text) :
    m.write path contents = (.error (.readOnly path), m) := by
  simp [write, h]

theorem write_of_not_mem (h : path.text ∉ m.readOnly) (contents : Text) :
    m.write path contents = (.ok (), m.written path contents) := by
  simp [write, h]

/-- Two stores that differ in their record of writes at most. -/
theorem forgetWrites_eq_iff :
    m.forgetWrites = m'.forgetWrites ↔ m.files = m'.files ∧ m.readOnly = m'.readOnly := by
  simp [forgetWrites]

/-! ### Existence and matches -/

theorem holds_iff :
    m.holds path = true ↔ ∃ key ∈ m.keys, key = path.text ∨ below path.text <+: key := by
  simp [holds]

theorem holds_of_mem_keys (h : path.text ∈ m.keys) : m.holds path = true :=
  holds_iff.mpr ⟨_, h, Or.inl rfl⟩

/-- Where nothing is, there is no file. -/
theorem lookup_eq_none_of_holds (h : m.holds path = false) : m.files.lookup path.text = none := by
  rw [← Option.not_isSome_iff_eq_none, lookup_isSome_iff]
  intro hkey
  exact Bool.false_ne_true (h.symm.trans (holds_of_mem_keys hkey))

/-- After a write there is also something at the written path, and at everything above it. -/
theorem holds_written_iff {at' : Path} :
    (m.written path contents).holds at' = true ↔
      m.holds at' = true ∨ path.text = at'.text ∨ below at'.text <+: path.text := by
  simp only [holds_iff, mem_keys_written]
  constructor
  · rintro ⟨key, rfl | hkey, hat⟩
    · exact Or.inr hat
    · exact Or.inl ⟨key, hkey, hat⟩
  · rintro (⟨key, hkey, hat⟩ | hat)
    · exact ⟨key, Or.inr hkey, hat⟩
    · exact ⟨path.text, Or.inl rfl, hat⟩

theorem holds_mono (hkeys : m.keys ⊆ m'.keys) (h : m.holds path = true) : m'.holds path = true := by
  obtain ⟨key, hkey, hat⟩ := holds_iff.mp h
  exact holds_iff.mpr ⟨key, hkeys hkey, hat⟩

theorem below_of_getLast?_ne {key : Text} (h : key.getLast? ≠ some '/') :
    below key = key ++ ['/'] := by
  rw [← List.head?_reverse] at h
  have hdrop : key.reverse.dropWhile (· == '/') = key.reverse := by
    cases hrev : key.reverse with
    | nil => rfl
    | cons c rest =>
      have hc : c ≠ '/' := fun hc => h (by rw [hrev, hc]; rfl)
      rw [List.dropWhile_cons_of_neg (by simpa using hc)]
  rw [below, hdrop, List.reverse_reverse]

theorem below_text (h : path.Descends) : below path.text = path.text ++ ['/'] :=
  below_of_getLast?_ne (Path.getLast?_text_ne_slash h.2)

/-- Something matches the text of a path read as a pattern. -/
theorem glob_text_ne_nil_iff :
    m.glob path.text ≠ [] ↔ ∃ key ∈ m.keys, Glob.isMatch path.text key = true := by
  rw [glob, Path.ofText_text, ne_eq, List.map_eq_nil_iff, ← List.length_eq_zero_iff,
    List.length_mergeSort, List.length_eq_zero_iff, List.filter_eq_nil_iff]
  simp

/-- Whether there are matches depends on whether a key matches. -/
theorem glob_isEmpty_congr {path' : Path}
    (h : (∃ key ∈ m.keys, Glob.isMatch path.text key = true) ↔
      ∃ key ∈ m'.keys, Glob.isMatch path'.text key = true) :
    (m.glob path.text).isEmpty = (m'.glob path'.text).isEmpty := by
  rw [← glob_text_ne_nil_iff, ← glob_text_ne_nil_iff, Decidable.not_iff_not] at h
  rw [Bool.eq_iff_iff, List.isEmpty_iff, List.isEmpty_iff, h]

end Memory

end Scaffold
