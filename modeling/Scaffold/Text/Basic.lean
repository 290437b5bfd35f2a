import Scaffold.Text.Blank

/-!
# Text

Text is a list of characters throughout: everything that is done with it here walks it from the
front. `String` is kept for the fixed words of messages and for the edge of the program.
-/

namespace Scaffold

/-- A text. -/
abbrev Text := List Char

namespace Text

/-- The text of a fixed string. -/
def of (s : String) : Text := s.toList

/-- The text as a string. -/
def string (s : Text) : String := String.ofList s

/-- Whether a text begins with another. -/
def startsWith (s start : Text) : Bool := start.isPrefixOf s

/-- Whether a text ends with another. -/
def endsWith (s ending : Text) : Bool := ending.isSuffixOf s

/-- The texts with a separator between neighbours. -/
def join (separator : Text) (parts : List Text) : Text := separator.intercalate parts

/-- The text before the first occurrence of a text and the text behind it. -/
def cutAt? (mark : Text) : Text → Option (Text × Text)
  | [] => if mark.isEmpty then some ([], []) else none
  | c :: rest =>
    if mark.isPrefixOf (c :: rest) then some ([], (c :: rest).drop mark.length)
    else (cutAt? mark rest).map fun (before, behind) => (c :: before, behind)

/-- Whether a text occurs in another. -/
def hasText (s part : Text) : Bool := (cutAt? part s).isSome

/-- The parts between the occurrences of a character. -/
def splitOnChar (separator : Char) : Text → List Text
  | [] => [[]]
  | c :: rest =>
    if c = separator then [] :: splitOnChar separator rest
    else match splitOnChar separator rest with
      | part :: parts => (c :: part) :: parts
      | [] => [[c]]

theorem not_mem_of_mem_splitOnChar {separator : Char} {s part : Text}
    (h : part ∈ splitOnChar separator s) : separator ∉ part := by
  induction s generalizing part with
  | nil => simp_all [splitOnChar]
  | cons c rest ih =>
    by_cases hc : c = separator
    · rw [splitOnChar, if_pos hc, List.mem_cons] at h
      rcases h with rfl | h
      · simp
      · exact ih h
    · rw [splitOnChar, if_neg hc] at h
      split at h
      · rename_i first more hsplit
        rcases List.mem_cons.mp h with rfl | h
        · have hfirst := ih (hsplit ▸ List.mem_cons_self)
          simp [Ne.symm hc, hfirst]
        · exact ih (hsplit ▸ List.mem_cons_of_mem _ h)
      · simp_all [Ne.symm hc]

/-- Order of texts by code points. -/
def le : Text → Text → Bool
  | [], _ => true
  | _ :: _, [] => false
  | a :: s, b :: t => decide (a.toNat < b.toNat) || (a == b && le s t)

end Text

end Scaffold
