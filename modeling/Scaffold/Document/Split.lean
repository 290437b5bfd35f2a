import Scaffold.Text.Lines

/-!
# Splitting a document

A document is cut at its delimiter lines, which hold `---` and nothing else than spaces and
tabs behind it. What lies between two of them, before the first or behind the last is a
*section*; the sections that are not blank are the *chunks*.

The cut is made by scanning for a delimiter at every beginning of a line.
-/

namespace Scaffold

namespace Document

/-- What follows a delimiter line, when the text begins with one. The line may be the last one
and lack its end. -/
def afterDelimiter? : Text → Option Text
  | '-' :: '-' :: '-' :: rest =>
    match rest.dropWhile fun c => c == ' ' || c == '\t' with
    | [] => some []
    | c :: more => if c = '\n' then some more else none
  | _ => none

theorem length_afterDelimiter?_lt {s rest : Text} (h : afterDelimiter? s = some rest) :
    rest.length < s.length := by
  unfold afterDelimiter? at h
  split at h
  · rename_i tail
    have hle := (List.dropWhile_suffix (l := tail) fun c => c == ' ' || c == '\t').length_le
    split at h
    · cases h
      simp
    · rename_i c more hmore
      rw [hmore] at hle
      split at h
      · cases h
        simp at hle ⊢
        omega
      · simp at h
  · simp at h

/-- The sections of a text that begins at the beginning of a line, or inside of one. -/
def sectionsFrom (lineStart : Bool) (s : Text) : List Text :=
  match _hd : if lineStart then afterDelimiter? s else none with
  | some rest => [] :: sectionsFrom true rest
  | none =>
    match s with
    | [] => [[]]
    | c :: rest =>
      match sectionsFrom (c == '\n') rest with
      | section₁ :: more => (c :: section₁) :: more
      | [] => [[c]]
termination_by s.length
decreasing_by
  · split at _hd
    · exact length_afterDelimiter?_lt _hd
    · simp at _hd
  · simp

/-- The sections of a text with unified line ends. -/
def sections (s : Text) : List Text := sectionsFrom true (Text.unifyNewlines s)

/-- The sections that are not blank. -/
def chunks (s : Text) : List Text := (sections s).filter fun chunk => !Text.isBlankText chunk

end Document

end Scaffold
