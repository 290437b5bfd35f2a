import Scaffold.Proofs.Variables.Load
import Scaffold.Value.Sharing

/-!
# The last assignment counts

Assignments are made to a tree one after another. An assignment touches what lies at a path of keys
if one of the two paths goes on where the other ends: then it puts a value there, or makes mappings
on the way to one, or takes away what was below. So what lies at a path in the end is settled by the
last assignment that touches it, and by the tree that was there before if none does.

An assignment that cannot be read ends the matter, and what was made by those in front of it stays.

## Main results

* `Value.follow_put_append`, `Value.exists_follow_put_append` — what lies below a path and above it
  when a value is put there
* `Variables.applyAll_last` — assignments to a tree
-/

namespace Scaffold

namespace Value

variable {new v : Value} {keys : List Value} {around : List (Nat × List (Value × Value))}

/-! ### Below and above a path -/

theorem opened_put_cons {key : Text} {path : List Text} (hshared : v.isShared = false) :
    (put (key :: path) new v).opened around =
      (around, insert (.text key) (put path new (v.under key)) v.entries) := by
  rw [opened_of_isShared, entries_put_cons]
  rw [isShared_put_cons, label?_eq_none hshared]
  rfl

/-- What lies below a path at which a value was put is what lies in that value. -/
theorem follow_put_append {path : List Text} (hopen : IsOpen path v) :
    follow around (path.map .text ++ keys) (put path new v) = follow around keys new := by
  induction path generalizing v with
  | nil => rfl
  | cons key path ih =>
    rw [List.map_cons, List.cons_append, follow, opened_put_cons hopen.1, lookup?_insert_self,
      Option.bind_some, ih hopen.2]

/-- On the way to a path at which a value was put there is a mapping, with the value put into it at
the rest of the path. -/
theorem exists_follow_put_append {path : List Text} (rest : List Text)
    (hopen : IsOpen (path ++ rest) v) :
    ∃ w, follow around (path.map .text) (put (path ++ rest) new v) = some (put rest new w) := by
  induction path generalizing v with
  | nil => exact ⟨v, rfl⟩
  | cons key path ih =>
    obtain ⟨w, hw⟩ := ih hopen.2
    refine ⟨w, ?_⟩
    rw [List.map_cons, follow, List.cons_append, opened_put_cons hopen.1, lookup?_insert_self,
      Option.bind_some, hw]

/-- Nothing lies below a value that is no mapping. -/
theorem follow_cons_eq_none {k : Value} (hshared : v.isShared = false)
    (hentries : v.entries = []) : follow around (k :: keys) v = none := by
  rw [follow, opened_of_isShared hshared, hentries]
  rfl

/-! ### Trees without sharing -/

theorem labels_eq_nil_of_mem {k : Value} {es : List (Value × Value)} (h : labelsOfEntries es = [])
    (hmem : (k, v) ∈ es) : v.labels = [] := by
  induction es with
  | nil => exact nomatch hmem
  | cons entry es ih =>
    obtain ⟨k', v'⟩ := entry
    simp only [labelsOfEntries, List.append_eq_nil_iff] at h
    rcases List.mem_cons.mp hmem with heq | hmem
    · obtain ⟨-, rfl⟩ := Prod.mk.inj heq
      exact h.1.2
    · exact ih h.2 hmem

theorem labels_under_eq_nil (key : Text) (h : v.labels = []) : (v.under key).labels = [] := by
  rw [under]
  cases v with
  | map label es =>
    rw [labels, List.append_eq_nil_iff] at h
    rcases hlookup : lookup? (.text key) (map label es).entries with _ | w
    · rfl
    · exact labels_eq_nil_of_mem h.2 (mem_of_lookup? hlookup)
  | _ => rfl

/-- Where no collection stands at several places, every way is open. -/
theorem isOpen_of_labels_eq_nil (path : List Text) (h : v.labels = []) : IsOpen path v := by
  induction path generalizing v with
  | nil => trivial
  | cons key path ih =>
    refine ⟨?_, ih (labels_under_eq_nil key h)⟩
    cases v with
    | map label es =>
      rw [labels, List.append_eq_nil_iff] at h
      cases label <;> simp_all [isShared]
    | cycle => simp [labels] at h
    | _ => rfl

end Value

namespace Variables

open Value

variable {a b : Assignment} {as earlier later : List Assignment} {read : List Text}
  {keys : List Value} {label : Option Nat} {es : Entries}

/-! ### One assignment after another -/

/-- The mapping that assignments make of one. -/
theorem exists_foldl_apply (hplain : ∀ a ∈ as, a.IsPlain)
    (hopen : ∀ a ∈ as, IsOpen a.path (.map label es)) :
    ∃ label' es', as.foldl (fun v a => a.apply v) (Value.map label es) = .map label' es' ∧
      ∀ path, IsOpen path (.map label es) → IsOpen path (.map label' es') := by
  induction as generalizing label es with
  | nil => exact ⟨label, es, rfl, fun _ h => h⟩
  | cons a as ih =>
    rw [List.forall_mem_cons] at hplain hopen
    have happly := Assignment.apply_eq_put hplain.1.path_ne_nil hopen.1
    have hstays (path : List Text) (h : IsOpen path (.map label es)) :
        IsOpen path (put a.path a.value (.map label es)) :=
      hopen.1.put hplain.1.isShared_eq hplain.1.entries_eq h
    obtain ⟨key, path, hkeys⟩ := List.exists_cons_of_ne_nil hplain.1.path_ne_nil
    rw [List.foldl_cons, happly]
    rw [hkeys, put] at hstays ⊢
    obtain ⟨label', es', hmap, hopen'⟩ := ih hplain.2 fun b hb => hstays _ (hopen.2 b hb)
    exact ⟨label', es', hmap, fun path h => hopen' path (hstays path h)⟩

/-- An assignment settles what lies at the paths of keys that it touches. -/
structure Assignment.Settles (a : Assignment) (keys : List Value) (found : Option Value) :
    Prop where
  /-- At its own path lies its value. -/
  at_path : keys = a.path.map .text → found = some a.value
  /-- Nothing lies below. -/
  below : ∀ k rest, keys = a.path.map .text ++ k :: rest → found = none
  /-- On the way lie mappings. -/
  above : ∀ k rest, a.path.map .text = keys ++ k :: rest → ∃ label es, found = some (.map label es)

/-- What lies at a path that the value of an assignment was just put at, below it or above it. -/
theorem Assignment.IsPlain.settles {root : Value} (hplain : a.IsPlain) (hopen : IsOpen a.path root)
    (keys : List Value) : a.Settles keys ((put a.path a.value root).at? keys) where
  at_path := by
    rintro rfl
    rw [Value.at?, ← List.append_nil (a.path.map _), follow_put_append hopen]
    rfl
  below := by
    rintro k rest rfl
    rw [Value.at?, follow_put_append hopen,
      follow_cons_eq_none hplain.isShared_eq hplain.entries_eq]
  above := by
    intro k rest hpath
    obtain ⟨path, behind, hsplit, rfl, hbehind⟩ := List.map_eq_append_iff.mp hpath
    obtain ⟨key, behind, rfl, -, -⟩ := List.map_eq_cons_iff.mp hbehind
    rw [hsplit] at hopen ⊢
    obtain ⟨w, hw⟩ : ∃ w, follow [] (path.map .text) (put (path ++ key :: behind) a.value root) =
        some (put (key :: behind) a.value w) :=
      exists_follow_put_append (key :: behind) hopen
    exact ⟨_, _, hw⟩

/-- What is settled by an assignment stays so while the later ones are made beside it. -/
theorem settles_foldl_apply (hplain : ∀ b ∈ earlier ++ a :: later, b.IsPlain)
    (hopen : ∀ b ∈ earlier ++ a :: later, IsOpen b.path (.map label es))
    (hapart : ∀ b ∈ later, AreApart (b.path.map .text) keys) :
    a.Settles keys
      (((earlier ++ a :: later).foldl (fun v a => a.apply v) (Value.map label es)).at? keys) := by
  simp only [List.forall_mem_append, List.forall_mem_cons] at hplain hopen
  obtain ⟨hplainEarlier, hplainA, hplainLater⟩ := hplain
  obtain ⟨label', es', hearlier, hopen'⟩ := exists_foldl_apply hplainEarlier hopen.1
  have hopenA : IsOpen a.path (.map label' es') := hopen' _ hopen.2.1
  have hput := Assignment.apply_eq_put hplainA.path_ne_nil hopenA
  have hopenLater (b : Assignment) (hb : b ∈ later) :
      IsOpen b.path (put a.path a.value (.map label' es')) :=
    hopenA.put hplainA.isShared_eq hplainA.entries_eq (hopen' _ (hopen.2.2 b hb))
  have hsettles := hplainA.settles hopenA keys
  obtain ⟨key, path, hkeys⟩ := List.exists_cons_of_ne_nil hplainA.path_ne_nil
  rw [List.foldl_append, hearlier, List.foldl_cons, hput]
  rw [hkeys, put] at hopenLater hsettles ⊢
  rwa [at?_foldl_apply hplainLater hopenLater hapart]

/-- Assignments that can be read are made; the first one that cannot be read stops there. -/
theorem AreRead.applyAll_append (h : AreRead read as) (root : Value) {bad : Text} {e : Failure}
    (hbad : Assignment.parse bad = .error e) (rest : List Text) :
    Variables.applyAll root (read ++ bad :: rest) =
      (as.foldl (fun v a => a.apply v) root, some e) := by
  induction h generalizing root with
  | nil => simp [Variables.applyAll, hbad]
  | cons hfirst _ ih =>
    rw [List.cons_append, Variables.applyAll, hfirst]
    exact ih _

/-- **The last assignment counts.** Assignments that can be read are all made to a mapping, if no
mapping on their ways is shared to begin with (and where none is shared at all, every way is
open). In what comes of it,

* what lies at a path of keys that no assignment touches is what lay there before, and
* what lies at any other is settled by the last assignment that touches it.

If one that cannot be read follows them, then this is how it ends, and what comes of it is the
same. -/
theorem applyAll_last (hread : AreRead read as)
    (hopen : ∀ a ∈ as, IsOpen a.path (.map label es)) :
    ∃ after, applyAll (.map label es) read = (after, none) ∧
      (∀ keys, (∀ a ∈ as, AreApart (a.path.map .text) keys) →
        after.at? keys = (Value.map label es).at? keys) ∧
      (∀ earlier a later keys, as = earlier ++ a :: later →
        (∀ b ∈ later, AreApart (b.path.map .text) keys) → a.Settles keys (after.at? keys)) ∧
      ∀ bad rest e, Assignment.parse bad = .error e →
        applyAll (.map label es) (read ++ bad :: rest) = (after, some e) := by
  refine ⟨_, hread.applyAll _, fun keys hapart => at?_foldl_apply hread.isPlain hopen hapart, ?_,
    fun bad rest e hbad => hread.applyAll_append _ hbad rest⟩
  rintro earlier a later keys rfl hapart
  exact settles_foldl_apply hread.isPlain hopen hapart

/-- A number under `b`, and one in a mapping under `c`. -/
def smallTree : Value :=
  .map none [(.text ['b'], .int 3), (.text ['c'], .map none [(.text ['d'], .int 4)])]

/-- Assignments that make the number under `b` a mapping, a text, and a mapping again. -/
def remaking : List Text := [Text.of "b.x=1", Text.of "b=s", Text.of "b.y=2"]

/-- An assignment as it is written, for one that can be read. -/
def assignmentOf (written : Text) : Assignment :=
  (Assignment.parse written).toOption.getD ⟨[], .null⟩

theorem areRead_remaking : AreRead remaking (remaking.map assignmentOf) := by
  have hsome : ∀ written ∈ remaking, (Assignment.parse written).toOption.isSome = true := by
    decide +kernel
  refine List.forall₂_map_right_iff.mpr (List.forall₂_same.mpr fun written hwritten => ?_)
  have h := hsome written hwritten
  unfold assignmentOf
  cases hparse : Assignment.parse written with
  | error e => simp [hparse, Except.toOption] at h
  | ok a => rfl

theorem paths_remaking :
    remaking.map (fun written => (assignmentOf written).path) =
      [[['b'], ['x']], [['b']], [['b'], ['y']]] := by
  decide +kernel

theorem applyAll_last_remaking :
    AreRead remaking (remaking.map assignmentOf) ∧ smallTree.labels = [] ∧
      ∃ after, applyAll smallTree remaking = (after, none) ∧
        after.at? [.text ['c'], .text ['d']] = some (.int 4) ∧
        after.at? [.text ['b'], .text ['x']] = none ∧
        (after.at? [.text ['b'], .text ['y']]).bind Value.integer? = some 2 ∧
        (∃ label es, after.at? [.text ['b']] = some (.map label es)) ∧
        applyAll smallTree (remaking ++ [['c']]) = (after, some (.noAssignment ['c'])) := by
  have hlabels : smallTree.labels = [] := rfl
  have hpaths := paths_remaking
  simp only [remaking, List.map_cons, List.map_nil, List.cons.injEq, and_true] at hpaths
  obtain ⟨hx, hb, hy⟩ := hpaths
  obtain ⟨after, hafter, hbeside, hlast, hbad⟩ :=
    applyAll_last areRead_remaking fun a _ => isOpen_of_labels_eq_nil a.path hlabels
  refine ⟨areRead_remaking, hlabels, after, hafter, ?_, ?_, ?_, ?_, hbad _ [] _ rfl⟩
  · rw [hbeside _ (by simp [remaking, AreApart, hx, hb, hy])]
    rfl
  · refine (hlast [_] _ [_] _ rfl ?_).below (.text ['x']) [] (by rw [hb]; rfl)
    simp [AreApart, hy]
  · rw [(hlast [_, _] _ [] _ rfl (by simp)).at_path (by rw [hy]; rfl)]
    decide +kernel
  · exact (hlast [_, _] _ [] _ rfl (by simp)).above (.text ['y']) [] (by rw [hy]; rfl)

end Variables

end Scaffold
