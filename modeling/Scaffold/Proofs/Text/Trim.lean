import Mathlib.Data.List.DropRight
import Mathlib.Data.List.TakeWhile
import Scaffold.Text.Basic

/-!
# Trimming

Blanks behind a text are seen neither by trimming nor by the test for content, and what trimming
leaves of the end of a text depends on nothing in front of it.

## Main definitions

* `Text.leadingBlanks`, `Text.trailingBlanks` — what trimming takes away

## Main results

* `Text.trim_append_of_isBlankText`, `Text.trim_trimEnd` — blanks behind a text do not count
* `Text.trimEnd_append` — the end of a text, trimmed
-/

namespace Scaffold

namespace Text

variable {s t : Text}

theorem trimEnd_eq_nil_iff : trimEnd s = [] ↔ isBlankText s = true := by
  rw [isBlankText, List.all_eq_true]
  exact List.rdropWhile_eq_nil_iff

theorem trimStart_eq_nil_iff : trimStart s = [] ↔ isBlankText s = true := by
  rw [isBlankText, List.all_eq_true]
  exact List.dropWhile_eq_nil_iff

theorem trimEnd_append (s t : Text) :
    trimEnd (s ++ t) = if isBlankText t then trimEnd s else s ++ trimEnd t := by
  rw [trimEnd, List.reverse_append, List.dropWhile_append]
  by_cases h : isBlankText t
  · have hnil : t.reverse.dropWhile isBlank = [] := by
      simpa [trimEnd] using trimEnd_eq_nil_iff.mpr h
    simp [h, hnil, trimEnd]
  · have hne : t.reverse.dropWhile isBlank ≠ [] := fun hnil =>
      h (trimEnd_eq_nil_iff.mp (by rw [trimEnd, hnil]; rfl))
    simp [h, hne, trimEnd]

theorem trim_append_of_isBlankText (h : isBlankText t = true) (s : Text) :
    trim (s ++ t) = trim s := by
  have hend : trimEnd t = [] := trimEnd_eq_nil_iff.mpr h
  have hstart : trimStart t = [] := trimStart_eq_nil_iff.mpr h
  rw [trim, trim, trimStart, List.dropWhile_append, ← trimStart, ← trimStart, hstart]
  split
  · rename_i hnil
    rw [List.isEmpty_iff.mp hnil]
  · rw [trimEnd_append, if_pos h]

theorem trim_trimEnd (s : Text) : trim (trimEnd s) = trim s := by
  have hblank : isBlankText (s.rtakeWhile isBlank) = true :=
    List.all_eq_true.mpr fun c hc => List.mem_rtakeWhile_imp hc
  calc trim (trimEnd s) = trim (s.rdropWhile isBlank ++ s.rtakeWhile isBlank) :=
        (trim_append_of_isBlankText hblank _).symm
    _ = trim s := by rw [List.rdropWhile_append_rtakeWhile]

/-! ### What is taken away -/

/-- The blanks that a text begins with. -/
def leadingBlanks (s : Text) : Text := s.takeWhile isBlank

/-- The blanks that a text ends with, if there is anything else in it. -/
def trailingBlanks (s : Text) : Text := (trimStart s).rtakeWhile isBlank

theorem append_trim_append (s : Text) : leadingBlanks s ++ (trim s ++ trailingBlanks s) = s := by
  have hend : trim s ++ trailingBlanks s = trimStart s :=
    List.rdropWhile_append_rtakeWhile
  rw [hend, leadingBlanks, trimStart, List.takeWhile_append_dropWhile]

theorem not_isBlank_of_mem_head? : ∀ c ∈ (trim s ++ trailingBlanks s).head?, isBlank c = false := by
  have hend : trim s ++ trailingBlanks s = trimStart s :=
    List.rdropWhile_append_rtakeWhile
  intro c hc
  have hnot := List.head?_dropWhile_not isBlank s
  rw [hend, trimStart] at hc
  rwa [Option.mem_def.mp hc] at hnot

theorem not_isBlank_of_mem_getLast? : ∀ c ∈ (trim s).getLast?, isBlank c = false := by
  intro c hc
  obtain ⟨hne, rfl⟩ := List.mem_getLast?_eq_getLast hc
  exact Bool.eq_false_iff.mpr (List.rdropWhile_last_not isBlank (trimStart s) hne)

end Text

end Scaffold
