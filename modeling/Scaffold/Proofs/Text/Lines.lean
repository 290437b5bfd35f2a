import Scaffold.Proofs.Text.Split
import Scaffold.Text.Lines

/-!
# Lines and line ends

Unifying line ends leaves no carriage return, and it can be done piece by piece unless a carriage
return ends one piece and a line feed begins the next.

A text is a last line, or a line, a line feed and a text. What is done line by line is proved by
`Text.lineInduction`.

## Main results

* `Text.unifyNewlines_append` — line ends are unified piece by piece
* `Text.unifyNewlines_of_not_mem` — what has no carriage return stays
* `Text.lineInduction` — induction by lines
-/

namespace Scaffold

namespace Text

variable {s t : Text}

/-! ### Unified line ends -/

theorem cr_not_mem_unifyNewlines (s : Text) : '\r' ∉ unifyNewlines s := by
  induction s using unifyNewlines.induct with
  | case1 => simp [unifyNewlines]
  | case2 rest ih => simp [unifyNewlines, ih]
  | case3 c rest hne ih =>
    rw [unifyNewlines, List.mem_cons, not_or]
    · refine ⟨?_, ih⟩
      split
      · decide
      · exact Ne.symm ‹_›
    · exact hne

theorem unifyNewlines_of_not_mem (h : '\r' ∉ s) : unifyNewlines s = s := by
  induction s with
  | nil => rfl
  | cons c rest ih =>
    rw [List.mem_cons, not_or] at h
    rw [unifyNewlines, if_neg (Ne.symm h.1), ih h.2]
    exact fun _ hc _ => h.1 hc.symm

/-- Line ends are unified piece by piece, unless the two pieces share one. -/
theorem unifyNewlines_append (h : s.getLast? = some '\r' → t.head? ≠ some '\n') :
    unifyNewlines (s ++ t) = unifyNewlines s ++ unifyNewlines t := by
  induction s using unifyNewlines.induct with
  | case1 => rfl
  | case2 rest ih =>
    have hrest : rest.getLast? = some '\r' → t.head? ≠ some '\n' := fun hlast => h (by
      simp [List.getLast?_cons, hlast])
    simp [unifyNewlines, ih hrest]
  | case3 c rest hne ih =>
    have hrest : rest.getLast? = some '\r' → t.head? ≠ some '\n' := fun hlast => h (by
      simp [List.getLast?_cons, hlast])
    have hapart : ∀ more, c = '\r' → rest ++ t = '\n' :: more → False := by
      rintro more rfl heq
      cases rest with
      | nil => exact h rfl (by rw [List.nil_append] at heq; rw [heq]; rfl)
      | cons d rest =>
        obtain ⟨rfl, -⟩ := List.cons.inj heq
        exact hne rest rfl rfl
    rw [List.cons_append, unifyNewlines, ih hrest, unifyNewlines, List.cons_append]
    · exact hne
    · exact hapart

theorem getLast?_unifyNewlines (s : Text) :
    (unifyNewlines s).getLast? = s.getLast?.map fun c => if c = '\r' then '\n' else c := by
  have hrest : ∀ (c d : Char) (rest : Text),
      (unifyNewlines rest).getLast? = rest.getLast?.map (fun c => if c = '\r' then '\n' else c) →
        (d = if c = '\r' then '\n' else c) → (d :: unifyNewlines rest).getLast? =
          (c :: rest).getLast?.map fun c => if c = '\r' then '\n' else c := by
    rintro c d rest ih rfl
    rw [List.getLast?_cons, List.getLast?_cons, ih]
    cases rest.getLast? <;> rfl
  induction s using unifyNewlines.induct with
  | case1 => rfl
  | case2 rest ih =>
    rw [unifyNewlines, List.getLast?_cons_cons]
    exact hrest '\n' '\n' rest ih rfl
  | case3 c rest hne ih =>
    rw [unifyNewlines]
    · exact hrest c _ rest ih rfl
    · exact hne

/-- A line end stays blank, however it is written. -/
theorem isBlankText_unifyNewlines (s : Text) : isBlankText (unifyNewlines s) = isBlankText s := by
  have hblank : isBlank '\n' = true ∧ isBlank '\r' = true := by decide
  induction s using unifyNewlines.induct with
  | case1 => rfl
  | case2 rest ih =>
    simp only [isBlankText] at ih
    simp only [unifyNewlines, isBlankText, List.all_cons, ih, hblank, Bool.true_and]
  | case3 c rest hne ih =>
    rw [unifyNewlines]
    · simp only [isBlankText] at ih
      simp only [isBlankText, List.all_cons, ih]
      by_cases hc : c = '\r' <;> simp [hc, hblank]
    · exact hne

theorem head?_of_head?_unifyNewlines {c : Char} (hc : c ≠ '\n')
    (h : (unifyNewlines s).head? = some c) : s.head? = some c := by
  cases s using unifyNewlines.fun_cases with
  | case1 => exact h
  | case2 rest => exact absurd (Option.some.inj h).symm hc
  | case3 d rest hne =>
    rw [unifyNewlines, List.head?_cons, Option.some.injEq] at h
    · split at h
      · exact absurd h.symm hc
      · rw [h, List.head?_cons]
    · exact hne

/-- Neighbours that are no line ends were neighbours before. -/
theorem infix_of_infix_unifyNewlines {a b : Char} (ha : a ≠ '\n') (hb : b ≠ '\n')
    (h : [a, b] <:+: unifyNewlines s) : [a, b] <:+: s := by
  induction s using unifyNewlines.induct with
  | case1 => exact h
  | case2 rest ih =>
    rw [unifyNewlines, List.infix_cons_iff] at h
    rcases h with h | h
    · exact absurd (List.cons_prefix_cons.mp h).1 ha
    · exact (ih h).trans ⟨['\r', '\n'], [], by simp⟩
  | case3 c rest hne ih =>
    rw [unifyNewlines, List.infix_cons_iff] at h
    · rcases h with h | h
      · obtain ⟨hfirst, hsecond⟩ := List.cons_prefix_cons.mp h
        have hc : c = a := by
          split at hfirst
          · exact absurd hfirst ha
          · exact hfirst.symm
        have hrest : rest.head? = some b := by
          obtain ⟨more, hmore⟩ := hsecond
          exact head?_of_head?_unifyNewlines hb (by rw [← hmore]; rfl)
        obtain ⟨more, rfl⟩ := List.head?_eq_some_iff.mp hrest
        rw [hc]
        exact (List.prefix_append [a, b] more).isInfix
      · exact (ih h).trans (List.suffix_cons _ _).isInfix
    · exact hne

/-! ### Lines -/

theorem unlines_lines (s : Text) : unlines (lines s) = s := join_splitOnChar '\n' s

theorem lines_unlines {ls : List Text} (hne : ls ≠ []) (h : ∀ line ∈ ls, '\n' ∉ line) :
    lines (unlines ls) = ls := splitOnChar_join hne h

theorem not_mem_of_mem_lines {line : Text} (h : line ∈ lines s) : '\n' ∉ line :=
  not_mem_of_mem_splitOnChar h

/-- A line at the end of others. -/
theorem unlines_append_singleton {ls : List Text} (hne : ls ≠ []) (line : Text) :
    unlines (ls ++ [line]) = unlines ls ++ '\n' :: line := by
  rw [unlines, join_append hne (List.cons_ne_nil _ _), join, join, List.intercalate_singleton,
    List.append_assoc]
  rfl

theorem getLast?_unlines_append_singleton (ls : List Text) {line : Text} (hline : line ≠ []) :
    (unlines (ls ++ [line])).getLast? = line.getLast? := by
  by_cases hne : ls = []
  · rw [hne, List.nil_append, unlines, join, List.intercalate_singleton]
  · rw [unlines_append_singleton hne, List.append_cons, List.getLast?_append,
      List.getLast?_eq_some_getLast hline, Option.some_or]

theorem length_unlines (ls : List Text) :
    (unlines ls).length = ls.flatten.length + (ls.length - 1) := by
  induction ls with
  | nil => rfl
  | cons line more ih =>
    cases more with
    | nil => simp [unlines, join]
    | cons next rest =>
      rw [unlines, join] at ih
      rw [unlines, join, List.intercalate_cons_cons, List.length_append, List.length_append, ih]
      simp only [List.flatten_cons, List.length_append, List.length_cons, List.length_nil]
      omega

theorem mem_of_mem_lines {line : Text} {c : Char} (h : line ∈ lines s) (hc : c ∈ line) : c ∈ s :=
  unlines_lines s ▸ (infix_join h).mem hc

/-! ### Induction by lines -/

/-- Induction by lines: a text without a line feed, or a line in front of a text. -/
@[elab_as_elim] theorem lineInduction {motive : Text → Prop}
    (last : ∀ line, '\n' ∉ line → motive line)
    (cons : ∀ line rest, '\n' ∉ line → motive rest → motive (line ++ '\n' :: rest)) (s : Text) :
    motive s := by
  induction hn : s.length using Nat.strongRecOn generalizing s with
  | ind n ih =>
    by_cases hmem : '\n' ∈ s
    · obtain ⟨line, rest, rfl, hline⟩ := List.eq_append_cons_of_mem hmem
      refine cons line rest hline (ih rest.length ?_ rest rfl)
      simp at hn
      omega
    · exact last s hmem

theorem lines_append_newline (s : Text) : lines (s ++ ['\n']) = lines s ++ [[]] := by
  induction s using lineInduction with
  | last line hline =>
    rw [lines, splitOnChar_append_cons hline, lines, splitOnChar_of_not_mem hline]
    rfl
  | cons line rest hline ih =>
    rw [lines] at ih
    rw [List.append_assoc, List.cons_append, lines, lines, splitOnChar_append_cons hline,
      splitOnChar_append_cons hline, ih]
    rfl

end Text

end Scaffold
