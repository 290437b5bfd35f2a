import Scaffold.Glob

/-!
# Literal text in wildcards

A text without wildcards, in front of a pattern, matches itself and nothing else, whatever the
pattern behind it is. With a wildcard in it that is not so, even if the text is meant as a name.

## Main results

* `Glob.isMatch_append_of_literal` — what has no wildcards stands for itself
-/

namespace Scaffold

namespace Glob

theorem partsFrom_append_of_literal {s : Text} (h : hasWildcard s = false) (fuel : Nat)
    (pattern : Text) :
    partsFrom (s.length + fuel) (s ++ pattern) = s.map .char ++ partsFrom fuel pattern := by
  induction s with
  | nil => simp
  | cons c rest ih =>
    simp only [hasWildcard, List.any_cons, Bool.or_eq_false_iff, beq_eq_false_iff_ne] at h ih
    obtain ⟨⟨⟨hstar, hone⟩, hset⟩, hrest⟩ := h
    rw [List.length_cons, Nat.add_right_comm, List.cons_append, partsFrom, if_neg hstar,
      if_neg hone, if_neg hset, ih hrest]
    rfl

theorem matchesParts_append_of_literal (s : Text) (ps : List Part) (t : Text) :
    matchesParts (s.map .char ++ ps) (s ++ t) = matchesParts ps t := by
  induction s with
  | nil => rfl
  | cons c rest ih =>
    rw [List.map_cons, List.cons_append, List.cons_append, matchesParts, ih]
    · simp [Part.holds]
    · simp

/-- **What has no wildcards stands for itself.** -/
theorem isMatch_append_of_literal {s : Text} (h : hasWildcard s = false) (pattern t : Text) :
    isMatch (s ++ pattern) (s ++ t) = isMatch pattern t := by
  rw [isMatch, parts, List.length_append, partsFrom_append_of_literal h,
    matchesParts_append_of_literal]
  rfl
end Glob

end Scaffold
