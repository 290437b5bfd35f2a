import Scaffold.Proofs.Edit.Injection
import Scaffold.Proofs.Pattern.Enumeration

/-!
# Taking lines away

A removal goes through the lines of a text and keeps those that the pattern is not found in. The
line feed at the end of the text ends its last line and begins no other, so it is set aside first
and put back if anything is left for it to end. The empty text behind it is not looked at, even if
the pattern is found in an empty text.

## Main definitions

* `Text.dropFinalNewline` — a text without the line feed at its end
* `Edit.keptLines` — the lines that a removal keeps

## Main results

* `Edit.removeLines_eq_self_iff` — when there is nothing to take away
* `Edit.removeLines_keeps` — the lines of what is left
-/

namespace Scaffold

variable {r : Pattern} {s : Text}

/-! ### The line feed at the end -/

namespace Text

/-- A text without the line feed at its end, if there is one. -/
def dropFinalNewline (s : Text) : Text := if s.getLast? = some '\n' then s.dropLast else s

theorem dropFinalNewline_append_newline (s : Text) : dropFinalNewline (s ++ ['\n']) = s := by
  simp [dropFinalNewline]

theorem dropFinalNewline_of_getLast?_ne (h : s.getLast? ≠ some '\n') : dropFinalNewline s = s :=
  if_neg h

theorem dropFinalNewline_append (s : Text) :
    dropFinalNewline s ++ (if s.getLast? = some '\n' then ['\n'] else []) = s := by
  by_cases hlast : s.getLast? = some '\n'
  · obtain ⟨front, rfl⟩ := List.getLast?_eq_some_iff.mp hlast
    rw [if_pos hlast, dropFinalNewline_append_newline]
  · rw [if_neg hlast, dropFinalNewline_of_getLast?_ne hlast, List.append_nil]

/-- The line feed at the end leaves an empty line behind it. -/
theorem lines_dropFinalNewline_append (s : Text) :
    lines (dropFinalNewline s) ++ (if s.getLast? = some '\n' then [[]] else []) = lines s := by
  by_cases hlast : s.getLast? = some '\n'
  · obtain ⟨front, rfl⟩ := List.getLast?_eq_some_iff.mp hlast
    rw [if_pos hlast, dropFinalNewline_append_newline, lines_append_newline]
  · rw [if_neg hlast, dropFinalNewline_of_getLast?_ne hlast, List.append_nil]

end Text

namespace Edit

/-! ### The lines that are kept -/

/-- The lines that a removal keeps, in order. -/
def keptLines (r : Pattern) (s : Text) : List Text :=
  (Text.lines s.dropFinalNewline).filter fun line => !r.isFound line

/-- A removal, told by the lines it keeps. -/
theorem removeLines_eq (r : Pattern) (s : Text) :
    removeLines r s = if keptLines r s = [] then [] else
      Text.unlines (keptLines r s) ++ if s.getLast? = some '\n' then ['\n'] else [] := by
  have hkept : keptLines r s = unmatched r s.dropFinalNewline := rfl
  by_cases hlast : s.getLast? = some '\n'
  · obtain ⟨front, rfl⟩ := List.getLast?_eq_some_iff.mp hlast
    rw [if_pos hlast, hkept, Text.dropFinalNewline_append_newline, removeLines_append_newline]
  · rw [if_neg hlast, hkept, Text.dropFinalNewline_of_getLast?_ne hlast,
      removeLines_of_getLast?_ne hlast]
    split
    · rename_i hnil
      rw [hnil]
      rfl
    · rw [List.append_nil]

theorem keptLines_eq_self_iff :
    keptLines r s = Text.lines s.dropFinalNewline ↔
      ∀ line ∈ Text.lines s.dropFinalNewline, ¬r.Occurs line := by
  simp only [keptLines, List.filter_eq_self, Bool.not_eq_true', ← Pattern.isFound_iff_occurs,
    Bool.not_eq_true]

/-- Lines are kept as they are, and so is what ends the last one. -/
theorem lines_removeLines (hkept : keptLines r s ≠ []) :
    Text.lines (removeLines r s) =
      keptLines r s ++ if s.getLast? = some '\n' then [[]] else [] := by
  have hlines : Text.lines (Text.unlines (keptLines r s)) = keptLines r s :=
    Text.lines_unlines hkept fun line hline =>
      Text.not_mem_of_mem_lines (List.mem_filter.mp hline).1
  rw [removeLines_eq, if_neg hkept]
  split
  · rw [Text.lines_append_newline, hlines]
  · rw [List.append_nil, List.append_nil, hlines]

/-- **There is nothing to take away** when no line is matched, or when there is no text. A line feed
alone is a text: its one line is empty, and goes if the pattern is found in it. -/
theorem removeLines_eq_self_iff :
    removeLines r s = s ↔
      (∀ line ∈ Text.lines s.dropFinalNewline, ¬r.Occurs line) ∨ s = [] := by
  constructor
  · intro hsame
    by_cases hkept : keptLines r s = []
    · rw [removeLines_eq, if_pos hkept] at hsame
      exact Or.inr hsame.symm
    · have hlines := lines_removeLines hkept
      rw [hsame, ← Text.lines_dropFinalNewline_append s] at hlines
      exact Or.inl (keptLines_eq_self_iff.mp (List.append_cancel_right hlines).symm)
  · rintro (hnone | rfl)
    · have hkept := keptLines_eq_self_iff.mpr hnone
      have hne : Text.lines s.dropFinalNewline ≠ [] := Text.splitOnChar_ne_nil '\n' _
      rw [removeLines_eq, hkept, if_neg hne, Text.unlines_lines, Text.dropFinalNewline_append]
    · exact removeLines_nil r

/-- **A removal keeps the lines that the pattern is not found in**, in order, and the line feed at
the end of the text as long as there is a line for it to end. Doing it again changes nothing. -/
theorem removeLines_keeps (r : Pattern) (s : Text) :
    (keptLines r s = [] → removeLines r s = []) ∧
      (keptLines r s ≠ [] → Text.lines (removeLines r s) =
        if s.getLast? = some '\n' then keptLines r s ++ [[]] else keptLines r s) ∧
      (keptLines r s ≠ [] → s.getLast? = some '\n' → (removeLines r s).getLast? = some '\n') ∧
      ∀ j : Injection, j.placement = some (.removeLines r) →
        j.apply s = removeLines r s ∧ j.apply (j.apply s) = j.apply s := by
  refine ⟨fun hnil => ?_, fun hkept => ?_, fun hkept hlast => ?_, fun j hj => ?_⟩
  · rw [removeLines_eq, if_pos hnil]
  · rw [lines_removeLines hkept]
    split
    · rfl
    · exact List.append_nil _
  · rw [removeLines_eq, if_neg hkept, if_pos hlast, List.getLast?_concat]
  · have happly : ∀ t, j.apply t = removeLines r t := fun t => by rw [Injection.apply, hj]
    rw [happly, happly, removeLines_removeLines]
    exact ⟨rfl, rfl⟩

end Edit

end Scaffold
