import Scaffold.Proofs.Edit.LineInsertion
import Scaffold.Proofs.Edit.Removal
import Scaffold.Proofs.Edit.Replacement

/-!
# When an edit changes a text

An edit that finds no match leaves the text as it is. The other way round, an edit that leaves the
text as it is had no match to act on, but for a few that put back what was there: an empty payload
inside a line, or a payload that is the match it replaces. Nothing is lost silently.

Each kind of edit shows in its own way that it did something. An insertion makes the text longer, in
lines or in characters; a removal gives it fewer lines; a replacement exchanges one part of it, and
what stands around that part is the same before and after.

A replacement of all matches may put the text back although no match is the payload, because what
one match loses another one gains. So only one direction is stated for it.

## Main definitions

* `Injection.IsIdle` — an edit has nothing to do in a text

## Main results

* `Edit.selected_eq_nil_iff` — when no line is selected
* `Edit.insert_eq_self_iff`, `Pattern.replaceFirst_eq_self_iff` — when the text stays
* `Injection.apply_eq_self_iff` — an edit leaves a text as it is when it has nothing to do there
-/

namespace Scaffold

namespace Edit

variable {r : Pattern} {which : Which} {side : Side} {inline : Bool} {payload s : Text}
  {ls : List Text}

/-! ### Insertions -/

/-- No line is selected where the pattern is found in none, whichever selection it is. -/
theorem selected_eq_nil_iff : selected r ls which = [] ↔ ∀ line ∈ ls, ¬r.Occurs line := by
  have hfirst : ∀ ls, firstFound? r ls = none ↔ ∀ line ∈ ls, ¬r.Occurs line := fun ls => by
    simp only [firstFound?, List.findIdx?_eq_none_iff, ← Pattern.isFound_iff_occurs,
      Bool.not_eq_true]
  cases which with
  | first => exact Option.toList_eq_nil_iff.trans (hfirst ls)
  | last =>
    rw [selected, Option.toList_eq_nil_iff, lastFound?, Option.map_eq_none_iff, hfirst]
    simp only [List.mem_reverse]
  | all =>
    rw [List.eq_nil_iff_forall_not_mem]
    constructor
    · intro hnil line hline hoccurs
      obtain ⟨i, hi⟩ := List.getElem?_of_mem hline
      exact hnil i (mem_selected_iff.mpr ⟨⟨line, hi, hoccurs⟩, trivial⟩)
    · intro hnone i hi
      obtain ⟨⟨line, hline, hoccurs⟩, -⟩ := mem_selected_iff.mp hi
      exact hnone line (List.mem_of_getElem? hline) hoccurs

/-- Inserting nothing inside lines changes nothing. -/
theorem insert_nil (s : Text) (r : Pattern) (which : Which) (side : Side) :
    insert s [] true r which side = s := by
  have hsame : insertInline r [] side (which == .first) (selected r (Text.lines s) which)
      (Text.lines s) = Text.lines s := by
    simp [insertInline, splice_nil]
  rw [insert_true_eq, hsame, Text.unlines_lines]

/-- What is inserted inside selected lines makes the text longer. -/
theorem eq_nil_of_insert_true_eq (hselected : selected r (Text.lines s) which ≠ [])
    (hsame : insert s payload true r which side = s) : payload = [] := by
  obtain ⟨touched, hlength, htouches, hspliced⟩ := exists_touched r which side (Text.lines s)
  obtain ⟨i, hi⟩ := List.exists_mem_of_ne_nil _ hselected
  have hchosen := mem_selected_iff.mp hi
  obtain ⟨line, hline, -⟩ := hchosen.1
  -- a selected line is touched by a match at least
  have htouched : touched.flatten.length ≠ 0 := by
    have hlt : i < touched.length := by
      rw [hlength]
      exact (List.getElem?_eq_some_iff.mp hline).1
    have hne := ((htouches i line _ hline (List.getElem?_eq_getElem hlt)).2 hchosen).1
    rw [ne_eq, List.length_eq_zero_iff, List.flatten_eq_nil_iff]
    exact fun hall => hne (hall _ (List.getElem_mem hlt))
  have hadded := length_unlines_spliceLines payload side hlength
  rw [← hspliced, ← hspliced, ← insert_true_eq, ← insert_true_eq, hsame, insert_nil] at hadded
  have hzero : payload.length * touched.flatten.length = 0 := by omega
  exact List.length_eq_zero_iff.mp ((Nat.mul_eq_zero.mp hzero).resolve_right htouched)

/-- Lines inserted next to selected lines are more lines, even when the payload is empty. -/
theorem insert_false_ne (hselected : selected r (Text.lines s) which ≠ []) :
    insert s payload false r which side ≠ s := by
  intro hsame
  have hlines := lines_insert s payload r which side
  rw [hsame] at hlines
  have hnodup : (selected r (Text.lines s) which).Nodup :=
    (selected_pairwise r (Text.lines s) which).imp fun hlt => Nat.ne_of_lt hlt
  have hlt : ∀ p ∈ selected r (Text.lines s) which, p < (Text.lines s).length := fun p hp => by
    obtain ⟨line, hline, -⟩ := mem_selected hp
    exact (List.getElem?_eq_some_iff.mp hline).1
  have hlength := length_insertBlocks hnodup hlt (Text.lines payload) side
  rw [← hlines] at hlength
  have hpayload := List.length_pos_iff.mpr (Text.splitOnChar_ne_nil '\n' payload)
  have hadded := Nat.mul_pos hpayload (List.length_pos_iff.mpr hselected)
  rw [← Text.lines] at hadded
  omega

/-- **An insertion leaves a text as it is** when no line is matched, or when it puts nothing inside
the lines that are. -/
theorem insert_eq_self_iff : insert s payload inline r which side = s ↔
    (∀ line ∈ Text.lines s, ¬r.Occurs line) ∨ inline = true ∧ payload = [] := by
  have hnone : selected r (Text.lines s) which = [] ↔ ∀ line ∈ Text.lines s, ¬r.Occurs line :=
    selected_eq_nil_iff
  rw [← hnone]
  constructor
  · intro hsame
    by_cases hselected : selected r (Text.lines s) which = []
    · exact Or.inl hselected
    · cases inline with
      | true => exact Or.inr ⟨rfl, eq_nil_of_insert_true_eq hselected hsame⟩
      | false => exact absurd hsame (insert_false_ne hselected)
  · rintro (hselected | ⟨rfl, rfl⟩)
    · exact insert_of_selected_eq_nil hselected
    · exact insert_nil s r which side

end Edit

/-! ### Replacements -/

namespace Pattern

variable {r : Pattern} {payload s : Text}

/-- **Replacing the first match leaves a text as it is** when there is none, or when the payload is
the match. What stands around the match is kept, so nothing else can make up for a difference. -/
theorem replaceFirst_eq_self_iff :
    editPieces (fun _ => payload) (r.piecesAtFirst s) = s ↔
      ¬r.Occurs s ∨ ∃ x, r.search? s = some x ∧ x.textIn s = payload := by
  obtain ⟨xs, hxs⟩ := r.exists_enumerates s
  have hordered := hxs.areOrdered (Nat.zero_le _)
  rw [piecesAtFirst_of_enumerates hxs, editPieces_piecesAt_const, ← hxs.eq_nil_iff, ← hxs.head?_eq]
  cases xs with
  | nil => exact iff_of_true rfl (Or.inl rfl)
  | cons x more =>
    obtain ⟨hstart, hstop, -⟩ := hordered
    have hcut : s.extract 0 x.start ++ x.textIn s ++ s.drop x.stop = s := by
      rw [Span.textIn, Text.extract_append_extract hstart hstop,
        Text.extract_append_drop (Nat.zero_le _), List.drop_zero]
    have hreplaced : replaceParts s payload 0 ((x :: more).take 1) =
        s.extract 0 x.start ++ payload ++ s.drop x.stop := rfl
    rw [hreplaced]
    constructor
    · intro hsame
      refine Or.inr ⟨x, rfl, ?_⟩
      exact List.append_cancel_left (List.append_cancel_right (hcut.trans hsame.symm))
    · rintro (hnil | ⟨y, ⟨⟩, rfl⟩)
      · cases hnil
      · exact hcut

end Pattern

namespace Injection

/-- An edit has nothing to do in a text. -/
def IsIdle (j : Injection) (s : Text) : Prop :=
  match j.placement with
  | none => True
  | some .prepend | some .append => False
  | some (.beside _ _ r) =>
    (∀ line ∈ Text.lines s, ¬r.Occurs line) ∨ j.inline = true ∧ j.payload = []
  | some (.removeLines r) => (∀ line ∈ Text.lines s.dropFinalNewline, ¬r.Occurs line) ∨ s = []
  | some (.replace r) => ¬r.Occurs s ∨ ∃ x, r.search? s = some x ∧ x.textIn s = j.payload
  | some (.replaceAll r) => ¬r.Occurs s

/-- **An edit leaves a text as it is exactly when it has nothing to do there**, but that a
replacement of all matches may also put the text back. -/
theorem apply_eq_self_iff (j : Injection) (s : Text) :
    (j.IsIdle s → j.apply s = s) ∧
      ((∀ r, j.placement ≠ some (.replaceAll r)) → (j.apply s = s ↔ j.IsIdle s)) := by
  rw [apply, IsIdle]
  rcases j.placement with _ | _ | _ | ⟨side, which, r⟩ | r | r | r
  · simp
  · have hlonger : j.payload ++ '\n' :: s ≠ s := fun hsame => by
      have hlength := congrArg List.length hsame
      simp at hlength
      omega
    simp [hlonger]
  · simp
  · exact ⟨Edit.insert_eq_self_iff.mpr, fun _ => Edit.insert_eq_self_iff⟩
  · exact ⟨Edit.removeLines_eq_self_iff.mpr, fun _ => Edit.removeLines_eq_self_iff⟩
  · exact ⟨Pattern.replaceFirst_eq_self_iff.mpr, fun _ => Pattern.replaceFirst_eq_self_iff⟩
  · refine ⟨fun hnone => ?_, fun hnot => absurd rfl (hnot r)⟩
    have hmissed : r.isFound s = false :=
      Bool.eq_false_iff.mpr fun hfound => hnone (Pattern.isFound_iff_occurs.mp hfound)
    exact Pattern.editPieces_of_not_isFound hmissed _

end Injection

end Scaffold
