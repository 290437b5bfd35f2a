import Scaffold.Proofs.Text.Split
import Scaffold.Proofs.Variables.Update
import Mathlib.Data.List.Forall2

/-!
# Variables with assignments

Assignments are made one after another to the mapping of a file. Each changes what lies on its way
and, if no mapping on that way is shared, nothing beside it; and since the mappings that an
assignment makes are not shared either, the ways of later ones stay open. So what lies beside all
assigned paths is what the file says.

Where the way goes through a mapping that the file shares, between two keys or with an alias inside
of the mapping itself, the assignment shows under the other key too.

## Main results

* `Variables.Assignment.isPlain_of_parse` — an assignment has a path, and its value is no mapping
* `Variables.at?_foldl_apply` — assignments leave alone what lies beside their paths
* `Variables.load_frame` — the same for a file, and `Variables.load_frame_aliased` for a shared one
-/

namespace Scaffold

namespace Variables

open Value

variable {a : Assignment} {as : List Assignment} {raw : Text} {written : Text}
  {assignments : List Text} {path : Text} {bytes : List UInt8} {root v : Value}

/-! ### Assignments -/

/-- An assignment with a path, of a value that is no mapping. -/
structure Assignment.IsPlain (a : Assignment) : Prop where
  path_ne_nil : a.path ≠ []
  isShared_eq : a.value.isShared = false
  entries_eq : a.value.entries = []

/-- The value of an assignment is no mapping: one that is written is taken as text. -/
theorem assignedValue_plain (h : assignedValue raw = .ok v) :
    v.isShared = false ∧ v.entries = [] := by
  unfold assignedValue at h
  split at h
  · cases h
    exact ⟨rfl, rfl⟩
  · split at h
    · cases h
      exact ⟨rfl, rfl⟩
    · exact absurd h (by simp)
    · rename_i w _
      split at h
      all_goals cases h
      any_goals exact ⟨rfl, rfl⟩
      cases v <;> simp_all [isShared, Value.entries]

theorem Assignment.isPlain_of_parse (h : Assignment.parse written = .ok a) : a.IsPlain := by
  unfold Assignment.parse at h
  split at h
  rename_i left right? _
  cases right? with
  | none => simp [throw, throwThe, MonadExceptOf.throw] at h
  | some raw =>
    dsimp only at h
    split at h
    · simp [throw, throwThe, MonadExceptOf.throw, bind, Except.bind] at h
    · split at h
      · simp [throw, throwThe, MonadExceptOf.throw, bind, Except.bind] at h
      · rcases hvalue : assignedValue raw with e | v
        · simp [hvalue, bind, Except.bind] at h
        · simp only [hvalue, bind, Except.bind, pure, Except.pure, Except.ok.injEq] at h
          subst h
          obtain ⟨hshared, hentries⟩ := assignedValue_plain hvalue
          exact ⟨Text.splitOnChar_ne_nil _ _, hshared, hentries⟩

/-- Assignments as they are written, all of which can be read. -/
abbrev AreRead (assignments : List Text) (as : List Assignment) : Prop :=
  List.Forall₂ (fun written a => Assignment.parse written = .ok a) assignments as

theorem AreRead.isPlain (h : AreRead assignments as) : ∀ a ∈ as, a.IsPlain := by
  induction h with
  | nil => simp
  | cons hfirst _ ih => exact List.forall_mem_cons.mpr ⟨Assignment.isPlain_of_parse hfirst, ih⟩

/-- Assignments are made one after another. -/
theorem AreRead.applyAll (h : AreRead assignments as) (root : Value) :
    applyAll root assignments = (as.foldl (fun v a => Assignment.apply a v) root, none) := by
  induction h generalizing root with
  | nil => rfl
  | cons hfirst _ ih =>
    rw [Variables.applyAll, hfirst]
    exact ih _

/-- On an open way, an assignment puts its value into the mapping. -/
theorem Assignment.apply_eq_put {label : Option Nat} {es : Entries} (hpath : a.path ≠ [])
    (hopen : IsOpen a.path (.map label es)) :
    a.apply (.map label es) = put a.path a.value (.map label es) := by
  rw [Assignment.apply, assign_eq_inl _ hpath hopen]
  obtain ⟨key, path, hkeys⟩ := List.exists_cons_of_ne_nil hpath
  rw [hkeys]
  rfl

/-- **Assignments leave alone what lies beside their paths**, if no mapping on their ways is shared
to begin with. -/
theorem at?_foldl_apply {label : Option Nat} {es : Entries} {keys : List Value}
    (hplain : ∀ a ∈ as, a.IsPlain) (hopen : ∀ a ∈ as, IsOpen a.path (.map label es))
    (hapart : ∀ a ∈ as, AreApart (a.path.map .text) keys) :
    (as.foldl (fun v a => a.apply v) (Value.map label es)).at? keys =
      (Value.map label es).at? keys := by
  induction as generalizing label es with
  | nil => rfl
  | cons a as ih =>
    rw [List.forall_mem_cons] at hplain hopen hapart
    have happly := Assignment.apply_eq_put hplain.1.path_ne_nil hopen.1
    have hstays : (put a.path a.value (.map label es)).at? keys = (Value.map label es).at? keys :=
      follow_put hopen.1 hapart.1
    have hlater : ∀ b ∈ as, IsOpen b.path (put a.path a.value (.map label es)) := fun b hb =>
      hopen.1.put hplain.1.isShared_eq hplain.1.entries_eq (hopen.2 b hb)
    obtain ⟨label', es', hmap⟩ : ∃ label' es',
        put a.path a.value (.map label es) = .map label' es' := by
      obtain ⟨key, path, hkeys⟩ := List.exists_cons_of_ne_nil hplain.1.path_ne_nil
      rw [hkeys]
      exact ⟨_, _, rfl⟩
    rw [List.foldl_cons, happly, ← hstays, hmap]
    rw [hmap] at hlater
    exact ih hplain.2 hlater hapart.2

/-! ### Files -/

/-- Variables are a mapping. -/
theorem exists_map_of_ofFile {contents : Option (List UInt8)}
    (h : ofFile path contents = .ok root) :
    ∃ label es, root = .map label es := by
  unfold ofFile at h
  split at h
  · exact absurd h (by simp)
  · split at h
    · exact absurd h (by simp)
    · unfold ofYaml at h
      split at h
      · exact absurd h (by simp)
      · exact absurd h (by simp)
      · exact ⟨_, _, (Except.ok.inj h).symm⟩
      · exact ⟨_, _, (Except.ok.inj h).symm⟩
      · exact absurd h (by simp)

theorem load_of_applyAll {contents : Option (List UInt8)} (hfile : ofFile path contents = .ok root)
    (happly : applyAll root assignments = (v, none)) :
    load (some (path, contents)) assignments = .ok v := by
  simp [load, hfile, happly, bind, Except.bind, pure, Except.pure]

/-- **Assignments change only what they name**, if no mapping that is shared in the file is on the
way of one. The variables can be had with and without them, and at every path of keys that is
neither the beginning of an assigned path nor goes on behind one there is the same. -/
theorem load_frame {contents : Option (List UInt8)} (hfile : ofFile path contents = .ok root)
    (hread : AreRead assignments as) (hopen : ∀ a ∈ as, IsOpen a.path root) :
    ∃ v, load (some (path, contents)) assignments = .ok v ∧
      load (some (path, contents)) [] = .ok root ∧
      ∀ keys, (∀ a ∈ as, AreApart (a.path.map .text) keys) → v.at? keys = root.at? keys := by
  obtain ⟨label, es, rfl⟩ := exists_map_of_ofFile hfile
  exact ⟨_, load_of_applyAll hfile (hread.applyAll _), load_of_applyAll hfile rfl,
    fun keys hapart => at?_foldl_apply hread.isPlain hopen hapart⟩

/-- A mapping under `a` and again below `b`, and one that begins again inside of itself. -/
def sharedFile : List UInt8 :=
  "a: &x \x7bp: 1\x7d\nb: \x7bq: *x, r: 2\x7d\nc: &y \x7bd: *y, e: 3\x7d\n".toUTF8.toList

/-- Variables of a file, for one that can be had. -/
def fileVariables (bytes : List UInt8) : Value := (ofFile [] (some bytes)).toOption.getD .null

theorem ofFile_sharedFile : ofFile [] (some sharedFile) = .ok (fileVariables sharedFile) := by
  have hsome : (ofFile [] (some sharedFile)).toOption.isSome = true := by decide +kernel
  unfold fileVariables
  cases hfile : ofFile [] (some sharedFile) with
  | error e => simp [hfile, Except.toOption] at hsome
  | ok root => rfl

theorem Assignment.exists_of_path {keys : List Text}
    (h : (Assignment.parse written).toOption.map (·.path) = some keys) :
    ∃ a, Assignment.parse written = .ok a ∧ a.path = keys := by
  cases hparse : Assignment.parse written with
  | error e => simp [hparse, Except.toOption] at h
  | ok a => exact ⟨a, rfl, by simpa [hparse, Except.toOption] using h⟩

/-- The mapping below `b` is assigned to, beside the alias in it, and a new one is made. What is
under `a`, and so what the alias stands for, is as it was. -/
theorem load_frame_beside :
    ∃ v, load (some ([], some sharedFile)) [Text.of "b.r=5", Text.of "n.p=6"] = .ok v ∧
      load (some ([], some sharedFile)) [] = .ok (fileVariables sharedFile) ∧
      v.at? [.text (Text.of "b"), .text (Text.of "q")] =
        (fileVariables sharedFile).at? [.text (Text.of "b"), .text (Text.of "q")] := by
  have hfirst : (Assignment.parse (Text.of "b.r=5")).toOption.map (·.path) =
      some [Text.of "b", Text.of "r"] := by decide +kernel
  have hsecond : (Assignment.parse (Text.of "n.p=6")).toOption.map (·.path) =
      some [Text.of "n", Text.of "p"] := by decide +kernel
  obtain ⟨a, ha, hapath⟩ := Assignment.exists_of_path hfirst
  obtain ⟨n, hn, hnpath⟩ := Assignment.exists_of_path hsecond
  have hopen : ∀ c ∈ [a, n], IsOpen c.path (fileVariables sharedFile) := by
    simp only [List.forall_mem_cons, hapath, hnpath]
    decide +kernel
  obtain ⟨v, hv, hroot, hkeys⟩ := load_frame ofFile_sharedFile (.cons ha (.cons hn .nil)) hopen
  refine ⟨v, hv, hroot, hkeys _ ?_⟩
  simp [AreApart, Text.of, hapath, hnpath]

/-- A mapping under `a`, and again under `b`. -/
def aliasedFile : List UInt8 := "a: &x \x7bp: 1\x7d\nb: *x\n".toUTF8.toList

/-- What lies under `b` and then `p`, if it is a number. -/
def numberBelow (vars : Except Failure Value) : Option Int :=
  (vars.toOption.bind (·.at? [.text (Text.of "b"), .text (Text.of "p")])).bind Value.integer?

/-- A mapping that is assigned to under one of its keys changes under the other. -/
theorem load_frame_aliased :
    AreApart ([Text.of "a", Text.of "p"].map .text) [.text (Text.of "b"), .text (Text.of "p")] ∧
      numberBelow (load (some ([], some aliasedFile)) []) = some 1 ∧
      numberBelow (load (some ([], some aliasedFile)) [Text.of "a.p=2"]) = some 2 :=
  ⟨by simp [AreApart, Text.of], by decide +kernel, by decide +kernel⟩

end Variables

end Scaffold
