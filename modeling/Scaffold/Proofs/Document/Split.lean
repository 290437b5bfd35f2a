import Mathlib.Data.List.TakeWhile
import Scaffold.Document.Split
import Scaffold.Proofs.Text.Lines

/-!
# Sections by lines

The cut of a document looks for a delimiter at every beginning of a line, so it can be told line by
line: a delimiter line begins a new section, and any other line goes to the section it stands in.

## Main results

* `Document.sectionsFrom_line`, `Document.sectionsFrom_append_line` — the cut, line by line
* `Document.sectionsFrom_append_delimiter` — a delimiter line cuts the text in two
-/

namespace Scaffold

namespace Document

variable {line : Text}

/-- Whether a line, without its end, is a delimiter: three hyphens, and behind them nothing but
spaces and tabs. -/
def isDelimiter : Text → Bool
  | '-' :: '-' :: '-' :: more => more.all fun c => c == ' ' || c == '\t'
  | _ => false

/-- A delimiter holds a hyphen. -/
theorem mem_of_isDelimiter (h : isDelimiter line = true) : '-' ∈ line := by
  unfold isDelimiter at h
  split at h
  · exact List.mem_cons_self
  · exact absurd h (by decide)

/-! ### One line -/

/-- A delimiter is looked for in the line alone: its end comes off with it, if it has one. -/
theorem afterDelimiter?_append_ending (hline : '\n' ∉ line) (ending : Text)
    (hending : ∀ c ∈ ending.head?, c = '\n') :
    afterDelimiter? (line ++ ending) = if isDelimiter line then some ending.tail else none := by
  by_cases hhyphens : ∃ more, line = '-' :: '-' :: '-' :: more
  · obtain ⟨more, rfl⟩ := hhyphens
    rw [List.cons_append, List.cons_append, List.cons_append, afterDelimiter?,
      List.dropWhile_append, isDelimiter]
    cases hall : more.all fun c => c == ' ' || c == '\t' with
    | true =>
      rw [List.dropWhile_eq_nil_iff.mpr (List.all_eq_true.mp hall)]
      cases ending with
      | nil => rfl
      | cons c rest => simp [hending c rfl]
    | false =>
      -- what is left begins with a character of the line, which is not a line feed
      obtain ⟨c, left, hleft⟩ := List.exists_cons_of_ne_nil fun hnil => by
        rw [List.dropWhile_eq_nil_iff, ← List.all_eq_true, hall] at hnil
        exact absurd hnil (by decide)
      have hc : c ≠ '\n' := by
        rintro rfl
        have hsuffix := List.dropWhile_suffix (l := more) fun c => c == ' ' || c == '\t'
        exact hline (by simp [hsuffix.mem (hleft ▸ List.mem_cons_self)])
      simp [hleft, hc]
  · have hnot : isDelimiter line = false := by
      unfold isDelimiter
      split
      · exact absurd ⟨_, rfl⟩ hhyphens
      · rfl
    rw [hnot, if_neg Bool.false_ne_true]
    unfold afterDelimiter?
    split
    · rename_i tail heq
      -- a hyphen is no line end, so the three of them stand in the line
      have hhead : ending.head? ≠ some '-' := fun h => absurd (hending _ h) (by decide)
      rcases line with _ | ⟨a, _ | ⟨b, _ | ⟨c, more⟩⟩⟩ <;> simp_all
    · rfl

theorem sectionsFrom_ne_nil (lineStart : Bool) (s : Text) : sectionsFrom lineStart s ≠ [] := by
  rw [sectionsFrom]
  split
  · simp
  · split
    · simp
    · split <;> simp

theorem sectionsFrom_nil (lineStart : Bool) : sectionsFrom lineStart [] = [[]] := by
  cases lineStart <;> rw [sectionsFrom] <;> simp [afterDelimiter?]

theorem sectionsFrom_cons {lineStart : Bool} {c : Char} {s : Text}
    (h : lineStart = true → afterDelimiter? (c :: s) = none) :
    sectionsFrom lineStart (c :: s) = (sectionsFrom (c == '\n') s).modifyHead (c :: ·) := by
  have hnone : (if lineStart then afterDelimiter? (c :: s) else none) = none := by
    cases lineStart
    · rfl
    · exact h rfl
  rw [sectionsFrom]
  split
  · simp_all
  · obtain ⟨first, more, hsplit⟩ := List.exists_cons_of_ne_nil (sectionsFrom_ne_nil (c == '\n') s)
    simp [hsplit]

theorem sectionsFrom_of_delimiter {s rest : Text} (h : afterDelimiter? s = some rest) :
    sectionsFrom true s = [] :: sectionsFrom true rest := by
  rw [sectionsFrom]
  split
  · simp_all
  · rename_i hnone
    rw [if_pos rfl, h] at hnone
    exact absurd hnone (by simp)

/-- Inside a line, up to its end, nothing is cut. -/
theorem sectionsFrom_false_append_line (hline : '\n' ∉ line) (rest : Text) :
    sectionsFrom false (line ++ '\n' :: rest) =
      (sectionsFrom true rest).modifyHead (line ++ '\n' :: ·) := by
  induction line with
  | nil =>
    rw [List.nil_append, sectionsFrom_cons (by simp)]
    rfl
  | cons c line ih =>
    rw [List.mem_cons, not_or] at hline
    rw [List.cons_append, sectionsFrom_cons (by simp), beq_eq_false_iff_ne.mpr (Ne.symm hline.1),
      ih hline.2, List.modifyHead_modifyHead]
    rfl

theorem sectionsFrom_false_line (hline : '\n' ∉ line) : sectionsFrom false line = [line] := by
  induction line with
  | nil => exact sectionsFrom_nil false
  | cons c line ih =>
    rw [List.mem_cons, not_or] at hline
    rw [sectionsFrom_cons (by simp), beq_eq_false_iff_ne.mpr (Ne.symm hline.1), ih hline.2]
    rfl

/-! ### Line by line -/

/-- **The cut at a line.** A delimiter line ends the section before it, and any other line begins
the section that goes on behind it. -/
theorem sectionsFrom_append_line (hline : '\n' ∉ line) (rest : Text) :
    sectionsFrom true (line ++ '\n' :: rest) =
      if isDelimiter line then [] :: sectionsFrom true rest
      else (sectionsFrom true rest).modifyHead (line ++ '\n' :: ·) := by
  have hafter := afterDelimiter?_append_ending hline ('\n' :: rest) (by simp)
  split
  · rename_i hdelimiter
    rw [hdelimiter, if_pos rfl] at hafter
    exact sectionsFrom_of_delimiter hafter
  · rename_i hdelimiter
    rw [if_neg hdelimiter] at hafter
    cases line with
    | nil =>
      rw [List.nil_append] at hafter ⊢
      rw [sectionsFrom_cons fun _ => hafter]
      rfl
    | cons c line =>
      rw [List.mem_cons, not_or] at hline
      rw [List.cons_append] at hafter ⊢
      rw [sectionsFrom_cons fun _ => hafter, beq_eq_false_iff_ne.mpr (Ne.symm hline.1),
        sectionsFrom_false_append_line hline.2, List.modifyHead_modifyHead]
      rfl

/-- **The cut at the last line.** -/
theorem sectionsFrom_line (hline : '\n' ∉ line) :
    sectionsFrom true line = if isDelimiter line then [[], []] else [line] := by
  have hafter := afterDelimiter?_append_ending hline [] (by simp)
  rw [List.append_nil] at hafter
  split
  · rename_i hdelimiter
    rw [hdelimiter, if_pos rfl] at hafter
    rw [sectionsFrom_of_delimiter hafter, List.tail_nil, sectionsFrom_nil]
  · rename_i hdelimiter
    rw [if_neg hdelimiter] at hafter
    cases line with
    | nil => exact sectionsFrom_nil true
    | cons c line =>
      rw [List.mem_cons, not_or] at hline
      rw [sectionsFrom_cons fun _ => hafter, beq_eq_false_iff_ne.mpr (Ne.symm hline.1),
        sectionsFrom_false_line hline.2]
      rfl

/-- **A delimiter line cuts the text in two**, and each part is cut as it is by itself. -/
theorem sectionsFrom_append_delimiter (hline : '\n' ∉ line) (hdelimiter : isDelimiter line = true)
    (s rest : Text) :
    sectionsFrom true (s ++ '\n' :: (line ++ '\n' :: rest)) =
      sectionsFrom true (s ++ ['\n']) ++ sectionsFrom true rest := by
  have hcut : sectionsFrom true (line ++ '\n' :: rest) = [] :: sectionsFrom true rest := by
    rw [sectionsFrom_append_line hline, if_pos hdelimiter]
  induction s using Text.lineInduction with
  | last l hl =>
    rw [sectionsFrom_append_line hl, sectionsFrom_append_line hl, hcut,
      sectionsFrom_nil]
    split <;> simp
  | cons l more hl ih =>
    rw [List.append_assoc, List.cons_append, sectionsFrom_append_line hl, ih, List.append_assoc,
      List.cons_append, sectionsFrom_append_line hl]
    split
    · simp
    · obtain ⟨first, others, hsplit⟩ :=
        List.exists_cons_of_ne_nil (sectionsFrom_ne_nil true (more ++ ['\n']))
      simp [hsplit]

end Document

end Scaffold
