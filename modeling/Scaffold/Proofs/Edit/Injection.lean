import Mathlib.Data.List.Infix
import Scaffold.Edit.Injection
import Scaffold.Proofs.Edit.Insertion

/-!
# What an edit leaves

An edit leaves the text as it is, or leaves the payload in it in one piece, or takes lines away.
Taking the same lines away again does nothing. So an injection whose guard sees the payload wherever
it stands does nothing the second time, whatever its placement.

## Main results

* `Edit.removeLines_removeLines` — lines are taken away once
* `Injection.apply_cases` — what an edit can come to
* `Injection.apply_subset` — where the characters come from
* `Injection.patch_patch` — a guarded injection is idempotent
-/

namespace Scaffold

variable {r : Pattern} {s t : Text} {ls : List Text} {j : Injection}

namespace Edit

/-! ### Taking lines away -/

/-- The lines that a pattern is not found in. -/
def unmatched (r : Pattern) (s : Text) : List Text :=
  (Text.lines s).filter fun line => !r.isFound line

/-- Lines that stay where they are when the lines a pattern is found in are taken away. -/
def AreUnmatched (r : Pattern) (ls : List Text) : Prop :=
  ∀ line ∈ ls, '\n' ∉ line ∧ r.isFound line = false

theorem areUnmatched_unmatched (r : Pattern) (s : Text) : AreUnmatched r (unmatched r s) := by
  intro line hline
  obtain ⟨hmem, hfound⟩ := List.mem_filter.mp hline
  exact ⟨Text.not_mem_of_mem_lines hmem, by simpa using hfound⟩

theorem AreUnmatched.unmatched_unlines (h : AreUnmatched r ls) (hne : ls ≠ []) :
    unmatched r (Text.unlines ls) = ls := by
  rw [unmatched, Text.lines_unlines hne fun line hline => (h line hline).1, List.filter_eq_self]
  intro line hline
  rw [(h line hline).2, Bool.not_false]

theorem removeLines_append_newline (r : Pattern) (s : Text) :
    removeLines r (s ++ ['\n']) =
      if unmatched r s = [] then [] else Text.unlines (unmatched r s) ++ ['\n'] := by
  have hlast : ((s ++ ['\n']).getLast? == some '\n') = true := by simp
  rw [removeLines, hlast, if_pos rfl, List.dropLast_concat, ← unmatched]
  by_cases hnil : unmatched r s = []
  · rw [hnil]
    rfl
  · rw [if_neg hnil, if_pos (by simpa using hnil)]

theorem removeLines_of_getLast?_ne (h : s.getLast? ≠ some '\n') :
    removeLines r s = Text.unlines (unmatched r s) := by
  have hlast : (s.getLast? == some '\n') = false := beq_eq_false_iff_ne.mpr h
  rw [removeLines, hlast, if_neg Bool.false_ne_true, ← unmatched]
  rfl

theorem removeLines_nil (r : Pattern) : removeLines r [] = [] := by
  rw [removeLines_of_getLast?_ne (by simp)]
  cases h : r.isFound [] <;> simp [unmatched, Text.lines, Text.splitOnChar, h] <;> rfl

/-- Lines that no match is in stay, with a line feed behind them. -/
theorem AreUnmatched.removeLines_unlines_newline (h : AreUnmatched r ls) (hne : ls ≠ []) :
    removeLines r (Text.unlines ls ++ ['\n']) = Text.unlines ls ++ ['\n'] := by
  rw [removeLines_append_newline, h.unmatched_unlines hne, if_neg hne]

/-- Lines that no match is in stay. If the last one is empty, then the line feed in front of it is
the one at the end of the text. -/
theorem AreUnmatched.removeLines_unlines (h : AreUnmatched r ls) :
    removeLines r (Text.unlines ls) = Text.unlines ls := by
  rcases List.eq_nil_or_concat' ls with rfl | ⟨front, last, rfl⟩
  · exact removeLines_nil r
  · by_cases hlast : last = []
    · subst hlast
      by_cases hfront : front = []
      · subst hfront
        exact removeLines_nil r
      · have hclean : AreUnmatched r front := fun line hline => h line (by simp [hline])
        rw [Text.unlines_append_singleton hfront]
        exact hclean.removeLines_unlines_newline hfront
    · have hend : (Text.unlines (front ++ [last])).getLast? ≠ some '\n' := by
        rw [Text.getLast?_unlines_append_singleton front hlast]
        exact fun hfeed => (h last (by simp)).1 (List.mem_of_getLast? hfeed)
      rw [removeLines_of_getLast?_ne hend, h.unmatched_unlines (by simp)]

/-- **Lines are taken away once.** -/
theorem removeLines_removeLines (r : Pattern) (s : Text) :
    removeLines r (removeLines r s) = removeLines r s := by
  have hclean := areUnmatched_unmatched r
  by_cases hlast : s.getLast? = some '\n'
  · obtain ⟨front, rfl⟩ := List.getLast?_eq_some_iff.mp hlast
    rw [removeLines_append_newline]
    split
    · exact removeLines_nil r
    · rename_i hne
      exact (hclean front).removeLines_unlines_newline hne
  · rw [removeLines_of_getLast?_ne hlast]
    exact (hclean s).removeLines_unlines

theorem removeLines_subset (r : Pattern) (s : Text) : removeLines r s ⊆ '\n' :: s := by
  have hunmatched : ∀ s, Text.unlines (unmatched r s) ⊆ '\n' :: s := by
    intro s c hc
    rcases Text.mem_join hc with hfeed | ⟨line, hline, hmem⟩
    · exact List.mem_cons.mpr (Or.inl (List.mem_singleton.mp hfeed))
    · exact List.mem_cons_of_mem _ (Text.mem_of_mem_lines (List.mem_filter.mp hline).1 hmem)
  by_cases hlast : s.getLast? = some '\n'
  · obtain ⟨front, rfl⟩ := List.getLast?_eq_some_iff.mp hlast
    rw [removeLines_append_newline]
    split
    · exact List.nil_subset _
    · have hfront := hunmatched front
      exact List.append_subset.mpr ⟨List.Subset.trans hfront (by simp), by simp⟩
  · rw [removeLines_of_getLast?_ne hlast]
    exact hunmatched s

end Edit

namespace Injection

/-! ### Edits -/

/-- **What an edit can come to**: the text as it is, a text that holds the payload in one piece, or
lines taken away. -/
theorem apply_cases (j : Injection) (s : Text) :
    j.apply s = s ∨ j.payload <:+: j.apply s ∨
      ∃ r, j.placement = some (.removeLines r) ∧ j.apply s = Edit.removeLines r s := by
  have hreplace : ∀ (r : Pattern) (limit : Nat),
      Pattern.editPieces (fun _ => j.payload) (r.piecesFrom (limit + 1) false (.start s)) = s ∨
        j.payload <:+:
          Pattern.editPieces (fun _ => j.payload) (r.piecesFrom (limit + 1) false (.start s)) := by
    intro r limit
    cases hfound : r.isFound s with
    | true =>
      obtain ⟨taken, htaken⟩ := Pattern.piecesFrom_of_isFound hfound limit
      exact Or.inr (Pattern.infix_editPieces (fun _ => j.payload) htaken)
    | false => exact Or.inl (Pattern.editPieces_of_not_isFound hfound _)
  rw [apply]
  rcases j.placement with _ | _ | _ | ⟨side, which, r⟩ | r | r | r
  · exact Or.inl rfl
  · exact Or.inr (Or.inl (List.prefix_append _ _).isInfix)
  · exact Or.inr (Or.inl ((List.suffix_cons _ _).trans (List.suffix_append _ _)).isInfix)
  · by_cases hnil : Edit.selected r (Text.lines s) which = []
    · exact Or.inl (Edit.insert_of_selected_eq_nil hnil)
    · exact Or.inr (Or.inl (Edit.infix_insert hnil))
  · exact Or.inr (Or.inr ⟨r, rfl, rfl⟩)
  · exact (hreplace r 0).imp id Or.inl
  · exact (hreplace r _).imp id Or.inl

/-- An edit brings in nothing but the payload and line feeds. -/
theorem apply_subset (j : Injection) (s : Text) : j.apply s ⊆ '\n' :: (s ++ j.payload) := by
  have hreplace : ∀ (r : Pattern) (limit : Nat), Pattern.editPieces (fun _ => j.payload)
      (r.piecesFrom limit false (.start s)) ⊆ '\n' :: (s ++ j.payload) := by
    intro r limit
    have hsubset := Pattern.editPieces_subset (t := j.payload)
      (fun found => List.subset_append_right found _) (r.piecesFrom limit false (.start s))
    rw [Pattern.flatMap_text_piecesFrom] at hsubset
    exact List.Subset.trans hsubset (List.subset_cons_self _ _)
  rw [apply]
  rcases j.placement with _ | _ | _ | ⟨side, which, r⟩ | r | r | r
  · simp
  · simp
  · simp
  · exact Edit.insert_subset
  · exact List.Subset.trans (Edit.removeLines_subset r s) (by simp)
  · exact hreplace r 1
  · exact hreplace r _

/-! ### Guarded edits -/

/-- A text once an injection was carried out on it. -/
def patch (j : Injection) (s : Text) : Text := if j.isSatisfied s then s else j.apply s

/-- **A guarded injection is idempotent**: when the guard is satisfied by every text that holds the
payload, whatever the placement. -/
theorem patch_patch (hguard : ∀ t, j.payload <:+: t → j.isSatisfied t = true) (s : Text) :
    j.patch (j.patch s) = j.patch s := by
  cases hsat : j.isSatisfied s with
  | true =>
    have hstays : j.patch s = s := by rw [patch, hsat, if_pos rfl]
    rw [hstays, hstays]
  | false =>
    have hpatch : j.patch s = j.apply s := by rw [patch, hsat, if_neg Bool.false_ne_true]
    rw [hpatch]
    rcases j.apply_cases s with hsame | hinfix | ⟨r, hplacement, hremoved⟩
    · rw [hsame, hpatch, hsame]
    · rw [patch, hguard _ hinfix, if_pos rfl]
    · have hagain : j.apply (j.apply s) = j.apply s := by
        rw [hremoved, apply, hplacement]
        exact Edit.removeLines_removeLines r s
      rw [patch, hagain, ite_self]

theorem cr_not_mem_patch (hpayload : '\r' ∉ j.payload) (hs : '\r' ∉ s) : '\r' ∉ j.patch s := by
  rw [patch]
  split
  · exact hs
  · exact fun hmem => by simpa [hs, hpayload] using j.apply_subset s hmem

end Injection

end Scaffold
