import Mathlib.Data.List.Basic
import Scaffold.Edit.Insertion
import Scaffold.Proofs.Pattern.Search
import Scaffold.Proofs.Text.Lines

/-!
# What an insertion leaves

An insertion that has a line to act on leaves the payload in the text in one piece, whether it
becomes a line or is glued to a match. It brings in nothing but the payload and line feeds.

## Main results

* `Edit.mem_selected` — the pattern is found in every selected line
* `Edit.infix_insert`, `Edit.insert_of_selected_eq_nil` — the payload is there, or nothing changes
* `Edit.insert_subset` — where the characters come from
-/

namespace Scaffold

namespace Edit

variable {r : Pattern} {which : Which} {side : Side} {inline firstOnly : Bool} {chosen : List Nat}
  {ls : List Text} {line payload s : Text} {i : Nat} {c : Char}

/-! ### Selected lines -/

theorem exists_of_firstFound? (h : firstFound? r ls = some i) :
    ∃ line, ls[i]? = some line ∧ r.isFound line = true := by
  obtain ⟨hlt, hfound, -⟩ := List.findIdx?_eq_some_iff_getElem.mp h
  exact ⟨ls[i], List.getElem?_eq_getElem hlt, hfound⟩

/-- The selected lines are lines, and the pattern is found in them. -/
theorem mem_selected (h : i ∈ selected r ls which) :
    ∃ line, ls[i]? = some line ∧ r.isFound line = true := by
  cases which with
  | first => exact exists_of_firstFound? (Option.mem_toList.mp h)
  | last =>
    obtain ⟨k, hk, rfl⟩ := Option.map_eq_some_iff.mp (Option.mem_toList.mp h)
    obtain ⟨line, hline, hfound⟩ := exists_of_firstFound? hk
    have hlt : k < ls.length := by
      simpa using (List.getElem?_eq_some_iff.mp hline).1
    rw [List.getElem?_reverse hlt] at hline
    exact ⟨line, hline, hfound⟩
  | all =>
    obtain ⟨⟨line, k⟩, hmem, hsome⟩ := List.mem_filterMap.mp h
    obtain ⟨hfound, ⟨⟩⟩ := Option.ite_none_right_eq_some.mp hsome
    exact ⟨line, List.mk_mem_zipIdx_iff_getElem?.mp hmem, hfound⟩

/-! ### Lines of its own -/

theorem mem_insertLines (hi : i ∈ chosen) (hline : ls[i]? = some line) :
    payload ∈ insertLines payload side chosen ls := by
  refine List.mem_flatMap.mpr ⟨(line, i), List.mk_mem_zipIdx_iff_getElem?.mpr hline, ?_⟩
  dsimp only
  rw [if_pos (List.contains_iff_mem.mpr hi)]
  cases side <;> simp [Side.order]

theorem eq_or_mem_of_mem_insertLines (h : line ∈ insertLines payload side chosen ls) :
    line = payload ∨ line ∈ ls := by
  obtain ⟨⟨old, i⟩, hold, hline⟩ := List.mem_flatMap.mp h
  have hmem : old ∈ ls := List.mem_of_getElem? (List.mk_mem_zipIdx_iff_getElem?.mp hold)
  dsimp only at hline
  split at hline
  · cases side <;> simp only [Side.order, List.mem_cons, List.not_mem_nil, or_false] at hline <;>
      rcases hline with rfl | rfl <;> simp [hmem]
  · rw [List.mem_singleton] at hline
    exact Or.inr (hline ▸ hmem)

/-! ### Inside the line -/

theorem infix_splice (h : r.isFound line = true) :
    payload <:+: splice r payload side firstOnly line := by
  have hpieces : ∃ taken, Pattern.Piece.found taken ∈
      if firstOnly then r.piecesAtFirst line else r.pieces line := by
    cases firstOnly
    · exact Pattern.piecesFrom_of_isFound h _
    · exact Pattern.piecesFrom_of_isFound h 0
  obtain ⟨taken, htaken⟩ := hpieces
  have hside : payload <:+: (side.order payload taken).flatten :=
    List.infix_of_mem_flatten (by cases side <;> simp [Side.order])
  exact hside.trans
    (Pattern.infix_editPieces (fun found => (side.order payload found).flatten) htaken)

theorem splice_subset : splice r payload side firstOnly line ⊆ line ++ payload := by
  have hpieces : (if firstOnly then r.piecesAtFirst line else r.pieces line).flatMap
      Pattern.Piece.text = line := by
    cases firstOnly <;> exact Pattern.flatMap_text_piecesFrom ..
  have hedit : ∀ found, (side.order payload found).flatten ⊆ found ++ payload := by
    intro found
    cases side <;> simp [Side.order]
  have hsubset := Pattern.editPieces_subset hedit
    (if firstOnly then r.piecesAtFirst line else r.pieces line)
  rwa [hpieces] at hsubset

theorem mem_insertInline (hi : i ∈ chosen) (hline : ls[i]? = some line) :
    splice r payload side firstOnly line ∈ insertInline r payload side firstOnly chosen ls := by
  refine List.mem_map.mpr ⟨(line, i), List.mk_mem_zipIdx_iff_getElem?.mpr hline, ?_⟩
  dsimp only
  rw [if_pos (List.contains_iff_mem.mpr hi)]

theorem exists_of_mem_insertInline (h : line ∈ insertInline r payload side firstOnly chosen ls) :
    ∃ old ∈ ls, line ⊆ old ++ payload := by
  obtain ⟨⟨old, i⟩, hold, rfl⟩ := List.mem_map.mp h
  refine ⟨old, List.mem_of_getElem? (List.mk_mem_zipIdx_iff_getElem?.mp hold), ?_⟩
  dsimp only
  split
  · exact splice_subset
  · exact List.subset_append_left _ _

/-! ### The whole text -/

theorem insert_of_selected_eq_nil (h : selected r (Text.lines s) which = []) :
    insert s payload inline r which side = s := by
  rw [insert, h]
  rfl

/-- **An insertion leaves the payload in one piece**, when there is a line to insert it at. -/
theorem infix_insert (h : selected r (Text.lines s) which ≠ []) :
    payload <:+: insert s payload inline r which side := by
  obtain ⟨i, rest, hselected⟩ := List.exists_cons_of_ne_nil h
  have hi : i ∈ selected r (Text.lines s) which := hselected ▸ List.mem_cons_self
  obtain ⟨line, hline, hfound⟩ := mem_selected hi
  have hsome : (selected r (Text.lines s) which).isEmpty = false := by simpa using h
  rw [insert, hsome, if_neg Bool.false_ne_true]
  cases inline with
  | true => exact (infix_splice hfound).trans (Text.infix_join (mem_insertInline hi hline))
  | false => exact Text.infix_join (mem_insertLines hi hline)

/-- An insertion brings in nothing but the payload and line feeds. -/
theorem insert_subset : insert s payload inline r which side ⊆ '\n' :: (s ++ payload) := by
  intro c hc
  have hlines : ∀ line ∈ Text.lines s, line ⊆ s := fun line hline _ => Text.mem_of_mem_lines hline
  rw [List.mem_cons, List.mem_append]
  rw [insert] at hc
  split at hc
  · exact Or.inr (Or.inl hc)
  · split at hc
    · rcases Text.mem_join hc with hfeed | ⟨line, hline, hmem⟩
      · exact Or.inl (List.mem_singleton.mp hfeed)
      · obtain ⟨old, hold, hsubset⟩ := exists_of_mem_insertInline hline
        exact Or.inr ((List.mem_append.mp (hsubset hmem)).imp (fun h => hlines old hold h) id)
    · rcases Text.mem_join hc with hfeed | ⟨line, hline, hmem⟩
      · exact Or.inl (List.mem_singleton.mp hfeed)
      · rcases eq_or_mem_of_mem_insertLines hline with rfl | hold
        · exact Or.inr (Or.inr hmem)
        · exact Or.inr (Or.inl (hlines line hold hmem))

end Edit

end Scaffold
