import Scaffold.Text.Basic

/-!
# Splitting and joining

Joining undoes splitting at a character, and splitting undoes joining as long as no part holds the
character itself.
Paths and lines are both read back through this one fact.

## Main results

* `Text.join_append` — joining part by part
* `Text.infix_join`, `Text.mem_join` — what a joined text holds
* `Text.splitOnChar_append_cons` — the first part ends at the first separator
* `Text.splitOnChar_join` — the parts of a joined text are the parts it was joined from
* `Text.join_splitOnChar` — the parts of a text joined are the text
-/

namespace Scaffold

namespace Text

/-! ### Joining -/

theorem join_append {sep : Text} {ps qs : List Text} (hp : ps ≠ []) (hq : qs ≠ []) :
    join sep (ps ++ qs) = join sep ps ++ sep ++ join sep qs := by
  induction ps with
  | nil => exact absurd rfl hp
  | cons first rest ih =>
    cases rest with
    | nil =>
      obtain ⟨q, qs, rfl⟩ := List.exists_cons_of_ne_nil hq
      simp [join, List.intercalate_cons_cons]
    | cons next more =>
      have hrest := ih (List.cons_ne_nil _ _)
      simp only [join, List.cons_append, List.intercalate_cons_cons, List.append_assoc] at hrest ⊢
      rw [hrest]

/-- Every part stands in the joined text in one piece. -/
theorem infix_join {sep part : Text} {parts : List Text} (h : part ∈ parts) :
    part <:+: join sep parts := by
  obtain ⟨before, after, rfl⟩ := List.append_of_mem h
  have hfirst : part <+: join sep (part :: after) := by
    cases after with
    | nil => exact ⟨[], by simp [join]⟩
    | cons next more =>
      rw [join, List.intercalate_cons_cons, List.append_assoc]
      exact List.prefix_append _ _
  cases before with
  | nil => exact hfirst.isInfix
  | cons first more =>
    rw [join_append (List.cons_ne_nil _ _) (List.cons_ne_nil _ _)]
    exact hfirst.isInfix.trans (List.suffix_append _ _).isInfix

/-- Joining brings in nothing but the separator. -/
theorem mem_join {sep : Text} {parts : List Text} {c : Char} (h : c ∈ join sep parts) :
    c ∈ sep ∨ ∃ part ∈ parts, c ∈ part := by
  induction parts with
  | nil => simp [join] at h
  | cons first rest ih =>
    cases rest with
    | nil => exact Or.inr ⟨first, List.mem_cons_self, by simpa [join] using h⟩
    | cons next more =>
      rw [join, List.intercalate_cons_cons, List.mem_append, List.mem_append] at h
      rcases h with (h | h) | h
      · exact Or.inr ⟨first, List.mem_cons_self, h⟩
      · exact Or.inl h
      · exact (ih h).imp id fun ⟨part, hpart, hc⟩ => ⟨part, List.mem_cons_of_mem _ hpart, hc⟩

/-! ### Splitting what was joined -/

variable {sep : Char}

theorem splitOnChar_of_not_mem {s : Text} (h : sep ∉ s) : splitOnChar sep s = [s] := by
  induction s with
  | nil => rfl
  | cons c rest ih =>
    rw [List.mem_cons, not_or] at h
    rw [splitOnChar, if_neg (Ne.symm h.1), ih h.2]

/-- What stands before the first separator is the first part. -/
theorem splitOnChar_append_cons {part : Text} (h : sep ∉ part) (s : Text) :
    splitOnChar sep (part ++ sep :: s) = part :: splitOnChar sep s := by
  induction part with
  | nil => rw [List.nil_append, splitOnChar, if_pos rfl]
  | cons c rest ih =>
    rw [List.mem_cons, not_or] at h
    rw [List.cons_append, splitOnChar, if_neg (Ne.symm h.1), ih h.2]

/-- **Splitting undoes joining.** There has to be a part: splitting never gives none. -/
theorem splitOnChar_join {parts : List Text} (hne : parts ≠ []) (h : ∀ part ∈ parts, sep ∉ part) :
    splitOnChar sep (join [sep] parts) = parts := by
  induction parts with
  | nil => exact absurd rfl hne
  | cons part rest ih =>
    have hpart : sep ∉ part := h part List.mem_cons_self
    cases rest with
    | nil => rw [join, List.intercalate_singleton, splitOnChar_of_not_mem hpart]
    | cons next more =>
      have hrest := ih (List.cons_ne_nil _ _) fun p hp => h p (List.mem_cons_of_mem _ hp)
      rw [join] at hrest ⊢
      rw [List.intercalate_cons_cons, List.append_assoc, List.singleton_append,
        splitOnChar_append_cons hpart, hrest]

/-- A separator behind joined parts ends the last one of them. -/
theorem splitOnChar_join_append_cons {parts : List Text} (hne : parts ≠ [])
    (h : ∀ part ∈ parts, sep ∉ part) (s : Text) :
    splitOnChar sep (join [sep] parts ++ sep :: s) = parts ++ splitOnChar sep s := by
  induction parts with
  | nil => exact absurd rfl hne
  | cons part rest ih =>
    have hpart : sep ∉ part := h part List.mem_cons_self
    cases rest with
    | nil =>
      rw [join, List.intercalate_singleton, splitOnChar_append_cons hpart, List.singleton_append]
    | cons next more =>
      have hrest := ih (List.cons_ne_nil _ _) fun p hp => h p (List.mem_cons_of_mem _ hp)
      rw [join] at hrest ⊢
      rw [List.intercalate_cons_cons, List.append_assoc, List.append_assoc, List.singleton_append,
        splitOnChar_append_cons hpart, hrest, List.cons_append, List.cons_append, List.cons_append]

/-! ### Joining what was split -/

theorem splitOnChar_ne_nil (sep : Char) (s : Text) : splitOnChar sep s ≠ [] := by
  cases s with
  | nil => simp [splitOnChar]
  | cons c rest =>
    rw [splitOnChar]
    split
    · simp
    · split <;> simp

/-- **Joining undoes splitting.** -/
theorem join_splitOnChar (sep : Char) (s : Text) : join [sep] (splitOnChar sep s) = s := by
  induction s with
  | nil => rfl
  | cons c rest ih =>
    obtain ⟨first, more, hsplit⟩ := List.exists_cons_of_ne_nil (splitOnChar_ne_nil sep rest)
    rw [splitOnChar]
    rw [hsplit] at ih ⊢
    split
    · rename_i hc
      rw [join, List.intercalate_cons_cons, ← join, ih, hc]
      rfl
    · rw [← ih]
      cases more <;> simp [join, List.intercalate_cons_cons]

end Text

end Scaffold
