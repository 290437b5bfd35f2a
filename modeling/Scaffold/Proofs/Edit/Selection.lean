import Scaffold.Proofs.Edit.Change

/-!
# The selections agree

A text is searched for its first matched line from the front, for its last one from the end, and for
all of them in one pass. Each of the first two searches stops at the line it is after, so it does
not see the lines that the pass sees. What they come to are still the two ends of what the pass
comes to.

The pass grows by one line at its end, and the search from the end begins with that line. So the
agreement on the last line is an induction from the end; for the first line it is the rule that a
search forwards stops at the head of what a filter would keep.

Where one line at most is matched, the two ends are all there is. Lines of its own then go to the
same place under each selection. Inside a line the first selection stands apart, because it touches
one match of the line and the others touch every one.

## Main definitions

* `Injection.beside` — an injection with a place beside a pattern

## Main results

* `Edit.head?_foundLines`, `Edit.getLast?_foundLines` — the searches find the ends of the pass
* `Edit.selected_eq_foundLines` — with one matched line at most, every selection is the same
* `Edit.selections_agree` — the selections, and the edits made with them
-/

namespace Scaffold

/-- The injection with its payload beside what a pattern selects. -/
def Injection.beside (j : Injection) (side : Edit.Side) (which : Edit.Which) (r : Pattern) :
    Injection :=
  { j with placement := some (.beside side which r) }

namespace Edit

variable {r : Pattern} {which which' : Which} {side : Side} {inline : Bool} {payload s : Text}
  {ls : List Text}

/-! ### The ends of the pass -/

/-- The search from the front finds the first of all matched lines. -/
theorem head?_foundLines (r : Pattern) (ls : List Text) :
    (foundLines r ls).head? = firstFound? r ls := by
  rw [foundLines, List.head?_filterMap, firstFound?, List.findIdx?_eq_findSome?_zipIdx]

/-- The pass comes to the last line at the end. -/
theorem foundLines_concat (r : Pattern) (ls : List Text) (line : Text) :
    foundLines r (ls ++ [line]) =
      foundLines r ls ++ if r.isFound line then [ls.length] else [] := by
  rw [foundLines, List.zipIdx_append, List.filterMap_append, Nat.zero_add, List.zipIdx_singleton,
    ← foundLines]
  cases h : r.isFound line <;> simp [h]

/-- The search from the end begins with the last line, and goes on in front of it if the pattern is
not found there. -/
theorem lastFound?_concat (r : Pattern) (ls : List Text) (line : Text) :
    lastFound? r (ls ++ [line]) = if r.isFound line then some ls.length else lastFound? r ls := by
  rw [lastFound?, firstFound?, List.reverse_concat, List.findIdx?_cons, List.length_append,
    List.length_singleton]
  split
  · rfl
  · rw [Option.map_map, lastFound?, firstFound?]
    congr 1
    funext i
    rw [Function.comp_apply]
    omega

/-- The search from the end finds the last of all matched lines. -/
theorem getLast?_foundLines (r : Pattern) (ls : List Text) :
    (foundLines r ls).getLast? = lastFound? r ls := by
  induction ls using List.reverseRecOn with
  | nil => rfl
  | append_singleton ls line ih =>
    rw [foundLines_concat, lastFound?_concat]
    split
    · rw [List.getLast?_concat]
    · rw [List.append_nil, ih]

/-! ### One matched line at most -/

theorem length_foundLines (r : Pattern) (ls : List Text) :
    (foundLines r ls).length = ls.countP r.isFound := by
  induction ls using List.reverseRecOn with
  | nil => rfl
  | append_singleton ls line ih =>
    rw [foundLines_concat, List.length_append, ih, List.countP_append, List.countP_singleton]
    split <;> rfl

/-- **With one matched line at most, every selection is the same.** -/
theorem selected_eq_foundLines (h : ls.countP r.isFound ≤ 1) (which : Which) :
    selected r ls which = foundLines r ls := by
  rw [← length_foundLines] at h
  cases which with
  | first => rw [selected, ← head?_foundLines, ← List.take_one, List.take_of_length_le h]
  | last =>
    rw [selected, ← getLast?_foundLines]
    rcases Nat.le_one_iff_eq_zero_or_eq_one.mp h with hnone | hone
    · rw [List.length_eq_zero_iff.mp hnone]
      rfl
    · obtain ⟨i, hi⟩ := List.length_eq_one_iff.mp hone
      rw [hi]
      rfl
  | all => rfl

/-- An insertion depends on the selection through the selected lines, and inside them through
whether it touches the first match only. -/
theorem insert_congr
    (hselected : selected r (Text.lines s) which = selected r (Text.lines s) which')
    (htouched : inline = true → (which == .first) = (which' == .first)) :
    insert s payload inline r which side = insert s payload inline r which' side := by
  cases inline with
  | false => rw [insert_false_eq, insert_false_eq, hselected]
  | true => rw [insert_true_eq, insert_true_eq, hselected, htouched rfl]

/-! ### The selections and their edits -/

theorem apply_beside (j : Injection) (side : Side) (which : Which) (r : Pattern) (s : Text) :
    (j.beside side which r).apply s = insert s j.payload j.inline r which side := rfl

/-- **The selections agree.** All matched lines are those the pattern occurs in, ascending; the
first and the last selection are the two ends of that list, and nothing exactly where it is empty.
So in a text with one matched line at most, the last selection and the one of all lines edit alike,
and so does the first one unless it inserts inside the line. -/
theorem selections_agree (r : Pattern) :
    (∀ ls : List Text,
      (selected r ls .all).Pairwise (· < ·) ∧
      (∀ i, i ∈ selected r ls .all ↔ ∃ line, ls[i]? = some line ∧ r.Occurs line) ∧
      selected r ls .first = (selected r ls .all).head?.toList ∧
      selected r ls .last = (selected r ls .all).getLast?.toList ∧
      ∀ which, selected r ls which = [] ↔ selected r ls .all = []) ∧
    ∀ s : Text, (Text.lines s).countP r.isFound ≤ 1 → ∀ (j : Injection) (side : Side),
      (j.beside side .last r).apply s = (j.beside side .all r).apply s ∧
      (j.inline = false →
        (j.beside side .first r).apply s = (j.beside side .all r).apply s) := by
  constructor
  · intro ls
    refine ⟨selected_pairwise r ls .all, fun i => ?_, ?_, ?_, fun which => ?_⟩
    · exact mem_selected_iff.trans (and_iff_left trivial)
    · rw [selected, selected, head?_foundLines]
    · rw [selected, selected, getLast?_foundLines]
    · exact selected_eq_nil_iff.trans selected_eq_nil_iff.symm
  · intro s hone j side
    have hsame : ∀ which, selected r (Text.lines s) which = selected r (Text.lines s) .all :=
      selected_eq_foundLines hone
    refine ⟨?_, fun hlines => ?_⟩
    · rw [apply_beside, apply_beside]
      exact insert_congr (hsame .last) fun _ => rfl
    · rw [apply_beside, apply_beside, hlines]
      exact insert_congr (hsame .first) (absurd · Bool.false_ne_true)

/-- A matched line between two others, and a payload of two lines. -/
theorem selections_agree_between :
    let r : Pattern := ⟨['a'], .none, .code 97⟩
    let s := Text.of "b\na-a\nc"
    let j : Injection := ⟨['m'], Text.of "y\nz", false, none, none⟩
    (Text.lines s).countP r.isFound ≤ 1 ∧ j.inline = false ∧
      (j.beside .after .first r).apply s = Text.of "b\na-a\ny\nz\nc" ∧
      (j.beside .after .last r).apply s = (j.beside .after .all r).apply s ∧
      (j.beside .after .first r).apply s = (j.beside .after .all r).apply s := by
  intro r s j
  have hone : (Text.lines s).countP r.isFound ≤ 1 := by decide +kernel
  obtain ⟨hlast, hfirst⟩ := (selections_agree r).2 s hone j .after
  exact ⟨hone, rfl, by decide +kernel, hlast, hfirst rfl⟩

/-- Inside a line with two matches, the first selection is the one that touches only one. -/
example :
    let r : Pattern := ⟨['a'], .none, .code 97⟩
    let j : Injection := ⟨['m'], ['y'], true, none, none⟩
    (j.beside .after .first r).apply (Text.of "a-a") = Text.of "ay-a" ∧
      (j.beside .after .all r).apply (Text.of "a-a") = Text.of "ay-ay" := by
  decide +kernel

end Edit

end Scaffold
