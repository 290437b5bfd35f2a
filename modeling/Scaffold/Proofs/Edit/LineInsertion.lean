import Mathlib.Data.List.InsertIdx
import Mathlib.Data.List.Nodup
import Scaffold.Proofs.Edit.Splice

/-!
# Inserting lines

An insertion next to lines keeps every line. The lines of the payload come in as one block for each
selected line, so a line moves down by one block for every selected line above it, and nothing else
moves it. The selection is made in the text as it was: inserting at one line after the other gives
the same, as long as the last one comes first and no insertion moves a line that is still to come.

What happens to a list with a block put next to chosen entries is said first, whatever the entries
are; the lines of the edited text are such a list.

## Main definitions

* `Edit.insertBlocks` — a list with a block next to every chosen entry
* `Edit.TakesIn` — where everything is in such a list
* `Edit.insertLineAt` — a text with the payload as a line next to one line

## Main results

* `Edit.takesIn_insertBlocks` — the entries are kept, and the blocks stand next to them
* `Edit.lines_insert` — the lines of the edited text
* `Edit.foldr_insertLineAt` — one line after the other, from the last to the first
* `Edit.insert_lines` — the whole text
-/

namespace Scaffold

namespace Text

variable {s : Text} {ls : List Text}

theorem lines_of_not_mem (h : '\n' ∉ s) : lines s = [s] := splitOnChar_of_not_mem h

theorem lines_append_newline_append (s t : Text) : lines (s ++ '\n' :: t) = lines s ++ lines t := by
  have hjoin := splitOnChar_join_append_cons (splitOnChar_ne_nil '\n' s)
    (fun _ h => not_mem_of_mem_splitOnChar h) t
  rwa [join_splitOnChar] at hjoin

/-- A text with line feeds put together with others splits up into its own lines. -/
theorem lines_unlines_eq_flatMap (h : ls ≠ []) : lines (unlines ls) = ls.flatMap lines := by
  induction ls with
  | nil => exact absurd rfl h
  | cons line more ih =>
    cases more with
    | nil => rw [unlines, join, List.intercalate_singleton, List.flatMap_singleton]
    | cons next rest =>
      have hrest := ih (List.cons_ne_nil next rest)
      have hcons : unlines (line :: next :: rest) = line ++ '\n' :: unlines (next :: rest) := by
        rw [unlines, join, List.intercalate_cons_cons, List.append_assoc]
        rfl
      rw [hcons, lines_append_newline_append, hrest]
      rfl

theorem flatMap_lines_of_not_mem (h : ∀ line ∈ ls, '\n' ∉ line) : ls.flatMap lines = ls := by
  rw [List.flatMap_def, List.map_congr_left fun line hline => lines_of_not_mem (h line hline),
    ← List.flatMap_def]
  exact List.flatMap_singleton' ls

/-- Splitting up the parts does not change what they are put together to. -/
theorem unlines_flatMap_lines (ls : List Text) : unlines (ls.flatMap lines) = unlines ls := by
  by_cases h : ls = []
  · rw [h, List.flatMap_nil]
  · rw [← lines_unlines_eq_flatMap h, unlines_lines]

theorem length_lines (s : Text) : (lines s).length = s.count '\n' + 1 := by
  induction s using lineInduction with
  | last line hline => rw [lines_of_not_mem hline, List.count_eq_zero_of_not_mem hline]; rfl
  | cons line rest hline ih =>
    rw [lines_append_newline_append, lines_of_not_mem hline, List.length_append, ih,
      List.count_append, List.count_cons_self, List.count_eq_zero_of_not_mem hline,
      List.length_singleton]
    omega

end Text

namespace Edit

/-! ### Blocks in a list -/

/-- A list, counted from the given index on, with a block next to every chosen entry. -/
def insertBlocks {α : Type} (block : List α) (side : Side) (chosen : List Nat) (first : Nat)
    (ls : List α) : List α :=
  (ls.zipIdx first).flatMap fun x =>
    if chosen.contains x.2 then (side.order block [x.1]).flatten else [x.1]

/-- Whether what is inserted at one entry stands above another one. -/
def Side.isAbove : Side → (inserted i : Nat) → Bool
  | before, p, i => p ≤ i
  | after, p, i => p < i

/-- How far behind the index of an entry something is inserted at it. -/
def Side.offset : Side → Nat
  | before => 0
  | after => 1

/-- A list that has come to hold a block next to every chosen entry: it has grown by the blocks,
every entry is further down by the blocks above it, and each block stands next to its entry. -/
structure TakesIn {α : Type} (block : List α) (side : Side) (chosen : List Nat)
    (before after : List α) : Prop where
  length_eq : after.length = before.length + block.length * chosen.length
  keeps : ∀ i < before.length,
    after[i + block.length * chosen.countP (side.isAbove · i)]? = before[i]?
  block_at : ∀ p ∈ chosen,
    (after.drop (p + block.length * chosen.countP (· < p) + side.offset)).take block.length = block

section Blocks

variable {α : Type} {block ls : List α} {side : Side} {chosen chosen' : List Nat} {line : α}
  {first i j : Nat}

theorem insertBlocks_append (block : List α) (side : Side) (chosen : List Nat) (first : Nat)
    (ls ls' : List α) : insertBlocks block side chosen first (ls ++ ls') =
      insertBlocks block side chosen first ls ++
        insertBlocks block side chosen (first + ls.length) ls' := by
  simp only [insertBlocks, List.zipIdx_append, List.flatMap_append]

theorem insertBlocks_singleton (block : List α) (side : Side) (chosen : List Nat) (i : Nat)
    (line : α) : insertBlocks block side chosen i [line] =
      if i ∈ chosen then (side.order block [line]).flatten else [line] := by
  simp [insertBlocks]

/-- Only the indices of the entries themselves matter. -/
theorem insertBlocks_congr
    (h : ∀ i, first ≤ i → i < first + ls.length → (i ∈ chosen ↔ i ∈ chosen')) :
    insertBlocks block side chosen first ls = insertBlocks block side chosen' first ls := by
  rw [insertBlocks, insertBlocks, List.flatMap_def, List.flatMap_def]
  congr 1
  refine List.map_congr_left fun x hx => ?_
  have hchosen := h x.2 (List.le_snd_of_mem_zipIdx hx) (List.snd_lt_add_of_mem_zipIdx hx)
  rw [← List.contains_iff_mem, ← List.contains_iff_mem, ← Bool.eq_iff_iff] at hchosen
  rw [hchosen]

theorem insertBlocks_nil (block : List α) (side : Side) (first : Nat) (ls : List α) :
    insertBlocks block side [] first ls = ls := by
  have hfst : (fun x : α × Nat => [x.1]) = List.singleton ∘ Prod.fst := rfl
  simp only [insertBlocks, List.contains_nil, Bool.false_eq_true, if_false]
  rw [hfst, List.flatMap_def, ← List.map_map, List.zipIdx_map_fst]
  exact List.flatMap_singleton' ls

/-- A list cut at one of its entries. -/
theorem insertBlocks_cut (block : List α) (side : Side) (chosen : List Nat)
    (hline : ls[i]? = some line) : insertBlocks block side chosen 0 ls =
      insertBlocks block side chosen 0 (ls.take i) ++ (insertBlocks block side chosen i [line] ++
        insertBlocks block side chosen (i + 1) (ls.drop (i + 1))) := by
  obtain ⟨hlt, rfl⟩ := List.getElem?_eq_some_iff.mp hline
  have hlength : 0 + (ls.take i).length = i := by
    rw [List.length_take, Nat.zero_add, Nat.min_eq_left (Nat.le_of_lt hlt)]
  conv_lhs => rw [← List.take_append_drop i ls, List.drop_eq_getElem_cons hlt,
    List.append_cons, List.append_assoc, insertBlocks_append, insertBlocks_append, hlength]
  rfl

/-! ### Where everything is -/

theorem countP_lt_succ (h : chosen.Nodup) (i : Nat) :
    chosen.countP (· < i + 1) = chosen.countP (· < i) + if i ∈ chosen then 1 else 0 := by
  rw [← h.count]
  induction chosen with
  | nil => rfl
  | cons p more ih =>
    have hmore := ih (List.nodup_cons.mp h).2
    simp only [List.countP_cons, List.count_cons, hmore, decide_eq_true_eq, beq_iff_eq]
    split_ifs <;> omega

/-- The part in front of an index grows by a block for every chosen entry in it. -/
theorem length_insertBlocks_take (hchosen : chosen.Nodup) (block : List α) (side : Side)
    (hi : i ≤ ls.length) : (insertBlocks block side chosen 0 (ls.take i)).length =
      i + block.length * chosen.countP (· < i) := by
  induction i with
  | zero => simp [insertBlocks]
  | succ i ih =>
    have hlast : (insertBlocks block side chosen i [ls[i]]).length =
        1 + block.length * if i ∈ chosen then 1 else 0 := by
      rw [insertBlocks_singleton]
      split
      · cases side <;> simp [Side.order, Nat.add_comm]
      · rfl
    have hlength : 0 + (ls.take i).length = i := by
      rw [List.length_take, Nat.zero_add, Nat.min_eq_left (Nat.le_of_succ_le hi)]
    rw [List.take_succ_eq_append_getElem hi, insertBlocks_append, List.length_append,
      ih (Nat.le_of_succ_le hi), hlength, hlast, countP_lt_succ hchosen, Nat.mul_add]
    omega

theorem length_insertBlocks (hchosen : chosen.Nodup) (hlt : ∀ p ∈ chosen, p < ls.length)
    (block : List α) (side : Side) : (insertBlocks block side chosen 0 ls).length =
      ls.length + block.length * chosen.length := by
  have hall : chosen.countP (· < ls.length) = chosen.length :=
    List.countP_eq_length.mpr fun p hp => decide_eq_true (hlt p hp)
  have htake := length_insertBlocks_take hchosen block side (Nat.le_refl ls.length)
  rwa [List.take_length, hall] at htake

/-- **Every entry is kept**, behind the blocks that stand above it. -/
theorem getElem?_insertBlocks (hchosen : chosen.Nodup) (block : List α) (side : Side)
    (hi : i < ls.length) : (insertBlocks block side chosen 0 ls)[
      i + block.length * chosen.countP (side.isAbove · i)]? = ls[i]? := by
  have hline := List.getElem?_eq_getElem hi
  have hlength := length_insertBlocks_take hchosen block side (Nat.le_of_lt hi)
  rw [hline, insertBlocks_cut block side chosen hline, insertBlocks_singleton]
  cases side with
  | before =>
    have hcount : chosen.countP (Side.before.isAbove · i) =
        chosen.countP (· < i) + if i ∈ chosen then 1 else 0 := by
      rw [← countP_lt_succ hchosen]
      exact List.countP_congr fun p _ => by
        simp only [Side.isAbove, decide_eq_true_eq, Nat.lt_succ_iff]
    rw [hcount, List.getElem?_append_right (by rw [hlength, Nat.mul_add]; omega), hlength,
      Nat.mul_add]
    split
    · rw [show i + (block.length * chosen.countP (· < i) + block.length * 1) -
        (i + block.length * chosen.countP (· < i)) = block.length by omega]
      simp [Side.order]
    · simp
  | after =>
    have hcount : chosen.countP (Side.after.isAbove · i) = chosen.countP (· < i) := rfl
    rw [hcount, List.getElem?_append_right (Nat.le_of_eq hlength), hlength, Nat.sub_self]
    split
    · rfl
    · rfl

/-- **The block stands next to its entry.** -/
theorem take_drop_insertBlocks (hchosen : chosen.Nodup) (block : List α) (side : Side)
    (hmem : i ∈ chosen) (hi : i < ls.length) : ((insertBlocks block side chosen 0 ls).drop
      (i + block.length * chosen.countP (· < i) + side.offset)).take block.length = block := by
  have hlength := length_insertBlocks_take hchosen block side (Nat.le_of_lt hi)
  rw [insertBlocks_cut block side chosen (List.getElem?_eq_getElem hi), insertBlocks_singleton,
    if_pos hmem, ← List.drop_drop, ← hlength, List.drop_left]
  cases side with
  | before => simp [Side.order, Side.offset]
  | after => simp [Side.order, Side.offset]

theorem takesIn_insertBlocks (hchosen : chosen.Nodup) (hlt : ∀ p ∈ chosen, p < ls.length)
    (block : List α) (side : Side) :
    TakesIn block side chosen ls (insertBlocks block side chosen 0 ls) where
  length_eq := length_insertBlocks hchosen hlt block side
  keeps _ hi := getElem?_insertBlocks hchosen block side hi
  block_at p hp := take_drop_insertBlocks hchosen block side hp (hlt p hp)

/-- One more block, at an entry in front of the others. -/
theorem insertBlocks_cons (block : List α) (side : Side) {p : Nat} (hchosen : ∀ q ∈ chosen, p < q)
    (hline : ls[p]? = some line) :
    insertBlocks block side chosen 0 ls =
        ls.take p ++ ([line] ++ insertBlocks block side chosen (p + 1) (ls.drop (p + 1))) ∧
      insertBlocks block side (p :: chosen) 0 ls =
        ls.take p ++ ((side.order block [line]).flatten ++
          insertBlocks block side chosen (p + 1) (ls.drop (p + 1))) := by
  have hfront : ∀ more, (∀ i < p, i ∉ more) →
      insertBlocks block side more 0 (ls.take p) = ls.take p := fun more hmore => by
    have hnone : ∀ i, 0 ≤ i → i < 0 + (ls.take p).length → (i ∈ more ↔ i ∈ ([] : List Nat)) :=
      fun i _ hi => by
        rw [Nat.zero_add, List.length_take] at hi
        exact iff_of_false (hmore i (by omega)) List.not_mem_nil
    rw [insertBlocks_congr hnone, insertBlocks_nil]
  have hbehind : insertBlocks block side (p :: chosen) (p + 1) (ls.drop (p + 1)) =
      insertBlocks block side chosen (p + 1) (ls.drop (p + 1)) :=
    insertBlocks_congr fun i hi _ => by simp [Nat.ne_of_gt hi]
  have hp : p ∉ chosen := fun hmem => Nat.lt_irrefl p (hchosen p hmem)
  constructor
  · rw [insertBlocks_cut block side chosen hline, insertBlocks_singleton, if_neg hp,
      hfront chosen fun i hi hmem => Nat.lt_asymm hi (hchosen i hmem)]
  · rw [insertBlocks_cut block side _ hline, insertBlocks_singleton,
      if_pos List.mem_cons_self, hbehind, hfront _ fun i hi hmem => ?_]
    rcases List.mem_cons.mp hmem with rfl | hmem
    · exact Nat.lt_irrefl i hi
    · exact Nat.lt_asymm hi (hchosen i hmem)

end Blocks

/-! ### The lines of an edited text -/

variable {r : Pattern} {which : Which} {side : Side} {chosen : List Nat} {payload s : Text}
  {ls : List Text} {p : Nat}

/-- A text with the payload put in as a line next to one of its lines. -/
def insertLineAt (payload : Text) (side : Side) (p : Nat) (s : Text) : Text :=
  Text.unlines ((Text.lines s).insertIdx (p + side.offset) payload)

theorem insertLines_eq (payload : Text) (side : Side) (chosen : List Nat) (ls : List Text) :
    insertLines payload side chosen ls = insertBlocks [payload] side chosen 0 ls := by
  have horder : ∀ line, side.order payload line = (side.order [payload] [line]).flatten := by
    intro line
    cases side <;> rfl
  simp only [insertLines, insertBlocks, horder]

/-- A payload of several lines comes in as its lines. -/
theorem flatMap_lines_insertBlocks (payload : Text) (side : Side) (chosen : List Nat) (first : Nat)
    (hls : ∀ line ∈ ls, '\n' ∉ line) :
    (insertBlocks [payload] side chosen first ls).flatMap Text.lines =
      insertBlocks (Text.lines payload) side chosen first ls := by
  rw [insertBlocks, insertBlocks, List.flatMap_assoc, List.flatMap_def, List.flatMap_def]
  congr 1
  refine List.map_congr_left fun x hx => ?_
  have hline := Text.lines_of_not_mem (hls x.1 (List.fst_mem_of_mem_zipIdx hx))
  split
  · cases side <;> simp [Side.order, hline]
  · simp [hline]

theorem not_mem_of_mem_insertBlocks (hls : ∀ line ∈ ls, '\n' ∉ line) {line : Text} {first : Nat}
    (h : line ∈ insertBlocks (Text.lines payload) side chosen first ls) : '\n' ∉ line := by
  rw [← flatMap_lines_insertBlocks payload side chosen first hls] at h
  obtain ⟨part, -, hline⟩ := List.mem_flatMap.mp h
  exact Text.not_mem_of_mem_lines hline

theorem lines_insertLines (payload : Text) (side : Side) (chosen : List Nat) (s : Text) :
    Text.lines (Text.unlines (insertLines payload side chosen (Text.lines s))) =
      insertBlocks (Text.lines payload) side chosen 0 (Text.lines s) := by
  have hne : insertLines payload side chosen (Text.lines s) ≠ [] := by
    obtain ⟨line, hline⟩ := List.exists_mem_of_ne_nil _ (Text.splitOnChar_ne_nil '\n' s)
    obtain ⟨i, hi⟩ := List.getElem?_of_mem hline
    intro hnil
    have hplace := List.flatMap_eq_nil_iff.mp hnil _ (List.mk_mem_zipIdx_iff_getElem?.mpr hi)
    dsimp only at hplace
    split at hplace
    · cases side <;> exact List.cons_ne_nil _ _ hplace
    · exact List.cons_ne_nil _ _ hplace
  rw [Text.lines_unlines_eq_flatMap hne, insertLines_eq,
    flatMap_lines_insertBlocks payload side chosen 0 fun _ => Text.not_mem_of_mem_lines]

/-- Without a selected line the text is put together from its lines again. -/
theorem insert_false_eq : insert s payload false r which side = Text.unlines
    (insertLines payload side (selected r (Text.lines s) which) (Text.lines s)) := by
  cases hselected : selected r (Text.lines s) which with
  | nil => rw [insert_of_selected_eq_nil hselected, insertLines_eq, insertBlocks_nil,
      Text.unlines_lines]
  | cons i more =>
    rw [insert, hselected]
    rfl

/-- **The lines of the edited text** are those of the text, with those of the payload next to every
selected one. -/
theorem lines_insert (s payload : Text) (r : Pattern) (which : Which) (side : Side) :
    Text.lines (insert s payload false r which side) = insertBlocks (Text.lines payload) side
      (selected r (Text.lines s) which) 0 (Text.lines s) := by
  rw [insert_false_eq, lines_insertLines]

/-- Behind the lines in front of a place the payload comes in, and nothing else moves. -/
theorem insertIdx_append_cons (side : Side) (payload line : Text) (before behind : List Text) :
    (before ++ ([line] ++ behind)).insertIdx (before.length + side.offset) payload =
      before ++ (side.order payload line ++ behind) := by
  rw [List.insertIdx, List.modifyTailIdx_add]
  cases side <;> rfl

/-- **One line after the other**: inserting at the last line first gives the text with all of them
inserted at once. -/
theorem foldr_insertLineAt (payload : Text) (side : Side) (hchosen : chosen.Pairwise (· < ·))
    (hlt : ∀ p ∈ chosen, p < (Text.lines s).length) :
    chosen.foldr (insertLineAt payload side) s =
      Text.unlines (insertLines payload side chosen (Text.lines s)) := by
  induction chosen with
  | nil => rw [List.foldr_nil, insertLines_eq, insertBlocks_nil, Text.unlines_lines]
  | cons p more ih =>
    rw [List.pairwise_cons] at hchosen
    rw [List.forall_mem_cons] at hlt
    have hline := List.getElem?_eq_getElem hlt.1
    have hlines : ∀ line ∈ Text.lines s, '\n' ∉ line := fun _ => Text.not_mem_of_mem_lines
    obtain ⟨hmore, hall⟩ := insertBlocks_cons (Text.lines payload) side hchosen.1 hline
    have htake : ((Text.lines s).take p).length = p := by
      rw [List.length_take, Nat.min_eq_left (Nat.le_of_lt hlt.1)]
    have hinsert := insertIdx_append_cons side payload (Text.lines s)[p] ((Text.lines s).take p)
      (insertBlocks (Text.lines payload) side more (p + 1) ((Text.lines s).drop (p + 1)))
    rw [htake] at hinsert
    -- both texts have the same lines
    rw [List.foldr_cons, ih hchosen.2 hlt.2, insertLineAt, lines_insertLines, hmore, hinsert,
      insertLines_eq, ← Text.unlines_flatMap_lines, ← Text.unlines_flatMap_lines (insertBlocks ..),
      flatMap_lines_insertBlocks payload side _ 0 hlines, hall, List.flatMap_append,
      List.flatMap_append,
      Text.flatMap_lines_of_not_mem fun line h => hlines line (List.mem_of_mem_take h),
      Text.flatMap_lines_of_not_mem fun line h => not_mem_of_mem_insertBlocks
        (fun l hl => hlines l (List.mem_of_mem_drop hl)) h]
    have hline := Text.lines_of_not_mem (hlines _ (List.getElem_mem hlt.1))
    cases side <;> simp [Side.order, hline]

/-! ### The whole text -/

theorem selected_pairwise (r : Pattern) (ls : List Text) (which : Which) :
    (selected r ls which).Pairwise (· < ·) := by
  have hone : ∀ i : Option Nat, i.toList.Pairwise (· < ·) := fun i => by
    cases i with
    | none => exact List.Pairwise.nil
    | some i => exact List.pairwise_singleton _ i
  cases which with
  | first => exact hone _
  | last => exact hone _
  | all =>
    have hindices : (ls.zipIdx.map Prod.snd).Pairwise (· < ·) := by
      rw [List.zipIdx_map_snd]
      exact List.pairwise_lt_range'
    refine List.pairwise_filterMap.mpr ((List.pairwise_map.mp hindices).imp ?_)
    intro x y hlt i hi j hj
    obtain ⟨-, ⟨⟩⟩ := Option.ite_none_right_eq_some.mp hi
    obtain ⟨-, ⟨⟩⟩ := Option.ite_none_right_eq_some.mp hj
    exact hlt

/-- **An insertion of lines keeps every line.** The selected lines are a matter of the text as it
was. The payload comes in as a block of its lines for each of them, right above or right below it,
and every line of the text is still there, further down by the blocks that stand above it. The same
comes out when the payload is inserted at one selected line after the other, the last one first. -/
theorem insert_lines (s payload : Text) (r : Pattern) (which : Which) (side : Side) :
    ∃ chosen : List Nat, chosen.Pairwise (· < ·) ∧
      (∀ i, i ∈ chosen ↔ IsSelected r (Text.lines s) which i) ∧
      (Text.lines payload).length = payload.count '\n' + 1 ∧
      TakesIn (Text.lines payload) side chosen (Text.lines s)
        (Text.lines (insert s payload false r which side)) ∧
      insert s payload false r which side = chosen.foldr (insertLineAt payload side) s := by
  have hascending := selected_pairwise r (Text.lines s) which
  have hnodup : (selected r (Text.lines s) which).Nodup :=
    hascending.imp fun hlt => Nat.ne_of_lt hlt
  have hlt : ∀ p ∈ selected r (Text.lines s) which, p < (Text.lines s).length := fun p hp => by
    obtain ⟨line, hline, -⟩ := mem_selected hp
    exact (List.getElem?_eq_some_iff.mp hline).1
  refine ⟨selected r (Text.lines s) which, hascending, fun i => mem_selected_iff,
    Text.length_lines payload, ?_, ?_⟩
  · rw [lines_insert]
    exact takesIn_insertBlocks hnodup hlt _ side
  · rw [insert_false_eq, foldr_insertLineAt payload side hascending hlt]

end Edit

end Scaffold
