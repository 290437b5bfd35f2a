import Mathlib.Data.List.Basic
import Scaffold.Proofs.Edit.Insertion
import Scaffold.Proofs.Pattern.Enumeration

/-!
# Splicing inside lines

An insertion inside lines is a splice: copies of the payload are put between characters of the
text, at the beginnings or at the ends of matches, and nothing else happens. Which lines are touched
and which matches in them is said by the matches alone, whatever the payload is; in particular the
payload is never looked at, and neither is what was already inserted.

Two scans are behind this. One asks in which lines the pattern is found and picks the first or the
last of them, and the other enumerates the matches in a line. They agree because both are told by
where the pattern matches at an index.

## Main definitions

* `Text.insertAt` — a text with copies of a payload put in at indices
* `Edit.IsSelected` — the lines a selection takes

## Main results

* `Edit.mem_selected_iff` — the selection, told by where the pattern occurs
* `Edit.splice_of_enumerates` — a line with the payload at its matches
* `Edit.insert_inline` — the whole text
-/

namespace Scaffold

namespace Text

variable {payload s : Text} {i j k : Nat} {js : List Nat}

/-- A text from an index on, with a copy of the payload put in at each of the indices. -/
def insertAt (s payload : Text) : Nat → List Nat → Text
  | i, [] => s.drop i
  | i, j :: js => s.extract i j ++ payload ++ insertAt s payload j js

theorem extract_append_extract (hij : i ≤ j) (hjk : j ≤ k) :
    s.extract i j ++ s.extract j k = s.extract i k := by
  simp only [List.extract_eq_take_drop]
  rw [show k - i = (j - i) + (k - j) by omega, List.take_add, List.drop_drop,
    Nat.add_sub_cancel' hij]

theorem extract_append_drop (hij : i ≤ j) : s.extract i j ++ s.drop j = s.drop i := by
  rw [List.extract_eq_take_drop, show j = i + (j - i) by omega, ← List.drop_drop,
    Nat.add_sub_cancel_left, List.take_append_drop]

/-- What stands in front of the first copy may be taken off. -/
theorem extract_append_insertAt (hij : i ≤ j) (hjs : ∀ k ∈ js.head?, j ≤ k) :
    s.extract i j ++ insertAt s payload j js = insertAt s payload i js := by
  cases js with
  | nil => exact extract_append_drop hij
  | cons k js =>
    rw [insertAt, insertAt, List.append_assoc, ← List.append_assoc,
      extract_append_extract hij (hjs k rfl), ← List.append_assoc]

/-- Each copy adds its length. -/
theorem length_insertAt (s payload : Text) (i : Nat) (js : List Nat) :
    (insertAt s payload i js).length =
      (insertAt s [] i js).length + payload.length * js.length := by
  induction js generalizing i with
  | nil => simp [insertAt]
  | cons j js ih =>
    rw [insertAt, insertAt, List.append_assoc, List.append_assoc, List.length_append,
      List.length_append, List.length_append, List.length_append, ih j, List.length_cons,
      Nat.mul_succ, List.length_nil]
    omega

end Text

namespace Edit

open Pattern

variable {r : Pattern} {which : Which} {side : Side} {firstOnly : Bool} {ls : List Text}
  {line payload s : Text} {xs : List Span} {i : Nat}

/-! ### Selected lines -/

/-- The lines a selection takes: the pattern occurs in them, and if only the first or the last one
is taken, it occurs in none of the lines in front or in none of those behind. -/
def IsSelected (r : Pattern) (ls : List Text) (which : Which) (i : Nat) : Prop :=
  (∃ line, ls[i]? = some line ∧ r.Occurs line) ∧
    match which with
    | .first => ∀ line ∈ ls.take i, ¬r.Occurs line
    | .last => ∀ line ∈ ls.drop (i + 1), ¬r.Occurs line
    | .all => True

theorem firstFound?_eq_some_iff : firstFound? r ls = some i ↔
    (∃ line, ls[i]? = some line ∧ r.Occurs line) ∧ ∀ line ∈ ls.take i, ¬r.Occurs line := by
  rw [firstFound?, List.findIdx?_eq_some_iff_getElem]
  constructor
  · rintro ⟨hlt, hfound, hfirst⟩
    refine ⟨⟨ls[i], List.getElem?_eq_getElem hlt, isFound_iff_occurs.mp hfound⟩,
      fun line hline => ?_⟩
    obtain ⟨k, hk, rfl⟩ := List.mem_take_iff_getElem.mp hline
    rw [← isFound_iff_occurs]
    exact hfirst k (by omega)
  · rintro ⟨⟨line, hline, hoccurs⟩, hfirst⟩
    obtain ⟨hlt, rfl⟩ := List.getElem?_eq_some_iff.mp hline
    refine ⟨hlt, isFound_iff_occurs.mpr hoccurs, fun k hk => ?_⟩
    rw [isFound_iff_occurs]
    exact hfirst _ (List.mem_take_iff_getElem.mpr ⟨k, by omega, rfl⟩)

/-- Looking for the last line from the end gives the line that none behind it comes up to. -/
theorem lastFound?_eq_some_iff : lastFound? r ls = some i ↔
    (∃ line, ls[i]? = some line ∧ r.Occurs line) ∧ ∀ line ∈ ls.drop (i + 1), ¬r.Occurs line := by
  have hbehind : ∀ k, k < ls.length → ls.reverse.take k =
      (ls.drop (ls.length - 1 - k + 1)).reverse :=
    fun k hk => by
      rw [List.take_reverse, show ls.length - 1 - k + 1 = ls.length - k by omega]
  rw [lastFound?, Option.map_eq_some_iff]
  constructor
  · rintro ⟨k, hk, rfl⟩
    obtain ⟨⟨line, hline, hoccurs⟩, hfirst⟩ := firstFound?_eq_some_iff.mp hk
    have hlt : k < ls.length := by simpa using (List.getElem?_eq_some_iff.mp hline).1
    rw [List.getElem?_reverse hlt] at hline
    rw [hbehind k hlt] at hfirst
    exact ⟨⟨line, hline, hoccurs⟩, fun l hl => hfirst l (List.mem_reverse.mpr hl)⟩
  · rintro ⟨⟨line, hline, hoccurs⟩, hlast⟩
    have hlt : i < ls.length := (List.getElem?_eq_some_iff.mp hline).1
    have hback : ls.length - 1 - (ls.length - 1 - i) = i := by omega
    refine ⟨ls.length - 1 - i, firstFound?_eq_some_iff.mpr ⟨⟨line, ?_, hoccurs⟩, ?_⟩, hback⟩
    · rw [List.getElem?_reverse (by omega), hback, hline]
    · rw [hbehind _ (by omega), hback]
      exact fun l hl => hlast l (List.mem_reverse.mp hl)

/-- **The selected lines**, told by where the pattern occurs. -/
theorem mem_selected_iff : i ∈ selected r ls which ↔ IsSelected r ls which i := by
  cases which with
  | first => exact Option.mem_toList.trans firstFound?_eq_some_iff
  | last => exact Option.mem_toList.trans lastFound?_eq_some_iff
  | all =>
    constructor
    · intro h
      obtain ⟨line, hline, hfound⟩ := mem_selected h
      exact ⟨⟨line, hline, isFound_iff_occurs.mp hfound⟩, trivial⟩
    · rintro ⟨⟨line, hline, hoccurs⟩, -⟩
      refine List.mem_filterMap.mpr ⟨(line, i), List.mk_mem_zipIdx_iff_getElem?.mpr hline, ?_⟩
      exact if_pos (isFound_iff_occurs.mpr hoccurs)

/-! ### One line -/

/-- The edge of a match that the payload goes to. -/
def Side.edge : Side → Span → Nat
  | before, x => x.start
  | after, x => x.stop

/-- The payload next to every match, put together from the pieces, is the text with copies of it put
in at the edges. -/
theorem editPieces_piecesAt (h : AreOrdered s i xs) :
    editPieces (fun found => (side.order payload found).flatten) (piecesAt s i xs) =
      Text.insertAt s payload i (xs.map side.edge) := by
  induction xs generalizing i with
  | nil => exact List.append_nil _
  | cons x xs ih =>
    obtain ⟨hi, hx, hrest⟩ := h
    have hpieces : editPieces (fun found => (side.order payload found).flatten)
        (piecesAt s i (x :: xs)) = s.extract i x.start ++
          ((side.order payload (x.textIn s)).flatten ++
            Text.insertAt s payload x.stop (xs.map side.edge)) := by
      rw [← ih hrest]
      rfl
    rw [hpieces, List.map_cons, Text.insertAt]
    cases side with
    | before =>
      -- behind the copy stands the match, up to which the next copies are told
      have hnext : ∀ k ∈ (xs.map Side.before.edge).head?, x.stop ≤ k := by
        cases xs with
        | nil => simp
        | cons y ys =>
          rintro k ⟨⟩
          exact hrest.1
      rw [Side.edge, ← Text.extract_append_insertAt hx hnext]
      simp [Side.order, Span.textIn]
    | after =>
      rw [Side.edge, ← Text.extract_append_extract hi hx]
      simp [Side.order, Span.textIn]

/-- **A splice puts the payload at the matches in the line.** -/
theorem splice_of_enumerates (h : r.Enumerates line false 0 xs) (payload : Text) (side : Side)
    (firstOnly : Bool) : splice r payload side firstOnly line =
      Text.insertAt line payload 0 ((if firstOnly then xs.take 1 else xs).map side.edge) := by
  have hordered := h.areOrdered (Nat.zero_le _)
  cases firstOnly with
  | true =>
    have hfirst : AreOrdered line 0 (xs.take 1) := by
      cases h with
      | done => exact hordered
      | next hnext => exact ⟨hnext.le_start, hnext.start_le_stop, hnext.stop_le⟩
    rw [splice, if_pos rfl, if_pos rfl, piecesAtFirst_of_enumerates h, editPieces_piecesAt hfirst]
  | false =>
    rw [splice, if_neg Bool.false_ne_true, if_neg Bool.false_ne_true, pieces_of_enumerates h,
      editPieces_piecesAt hordered]

/-- Splicing nothing in changes nothing. -/
theorem splice_nil : splice r [] side firstOnly line = line := by
  have hedit : (fun found : Text => (side.order [] found).flatten) = id := by
    funext found
    cases side <;> simp [Side.order]
  have hpieces : ∀ ps, editPieces id ps = ps.flatMap Piece.text := fun ps => by
    rw [editPieces]
    congr 1
  rw [splice, hedit, hpieces]
  cases firstOnly <;> exact flatMap_text_piecesFrom ..

/-! ### The whole text -/

/-- The lines with copies of the payload at the edges of the matches that are touched in them. -/
def spliceLines (payload : Text) (side : Side) (ls : List Text) (touched : List (List Span)) :
    List Text :=
  List.zipWith (fun line xs => Text.insertAt line payload 0 (xs.map side.edge)) ls touched

/-- The matches that are touched in a line: none where the line is not selected, and else all of
them, or the first one. -/
def Touches (r : Pattern) (which : Which) (ls : List Text) (i : Nat) (line : Text)
    (xs : List Span) : Prop :=
  (¬IsSelected r ls which i → xs = []) ∧
    (IsSelected r ls which i → xs ≠ [] ∧
      ∃ all, r.Enumerates line false 0 all ∧ xs = if which = .first then all.take 1 else all)

/-- Without a selected line the text is put together from its lines again. -/
theorem insert_true_eq : insert s payload true r which side = Text.unlines
    (insertInline r payload side (which == .first) (selected r (Text.lines s) which)
      (Text.lines s)) := by
  cases hselected : selected r (Text.lines s) which with
  | nil =>
    have hlines : insertInline r payload side (which == .first) [] (Text.lines s) =
        Text.lines s := by
      simp [insertInline]
    rw [insert_of_selected_eq_nil hselected, hlines, Text.unlines_lines]
  | cons i more =>
    rw [insert, hselected]
    rfl

/-- Every selection touches matches, which do not depend on what is inserted. -/
theorem exists_touched (r : Pattern) (which : Which) (side : Side) (ls : List Text) :
    ∃ touched : List (List Span), touched.length = ls.length ∧
      (∀ i line xs, ls[i]? = some line → touched[i]? = some xs → Touches r which ls i line xs) ∧
      ∀ payload, insertInline r payload side (which == .first) (selected r ls which) ls =
        spliceLines payload side ls touched := by
  choose enumeration henumerates using r.exists_enumerates
  refine ⟨ls.zipIdx.map fun x => if (selected r ls which).contains x.2 then
    (if which == .first then (enumeration x.1).take 1 else enumeration x.1) else [],
    by simp, fun i line xs hline hxs => ?_, fun payload => ?_⟩
  · simp only [List.getElem?_map, List.getElem?_zipIdx, hline, Option.map_some, Nat.zero_add,
      Option.some.injEq] at hxs
    subst hxs
    refine ⟨fun hnot => if_neg ?_, fun hselected => ?_⟩
    · rwa [List.contains_iff_mem, mem_selected_iff]
    · rw [if_pos (List.contains_iff_mem.mpr (mem_selected_iff.mpr hselected))]
      obtain ⟨⟨line', hline', hoccurs⟩, -⟩ := hselected
      obtain rfl : line = line' := Option.some.inj (hline.symm.trans hline')
      have hne := (henumerates line).ne_nil_of_occurs hoccurs
      refine ⟨?_, enumeration line, henumerates line, ?_⟩
      · split <;> simp [hne]
      · cases which <;> rfl
  · rw [spliceLines, insertInline]
    refine List.ext_getElem (by simp) fun i hi hi' => ?_
    simp only [List.getElem_map, List.getElem_zipIdx, List.getElem_zipWith, Nat.zero_add]
    split
    · exact splice_of_enumerates (henumerates _) payload side _
    · exact (List.drop_zero).symm

/-- Each copy adds its length, in whichever line it is. -/
theorem length_unlines_spliceLines (payload : Text) (side : Side) {ls : List Text}
    {touched : List (List Span)} (hlength : touched.length = ls.length) :
    (Text.unlines (spliceLines payload side ls touched)).length =
      (Text.unlines (spliceLines [] side ls touched)).length +
        payload.length * touched.flatten.length := by
  have hsum : (spliceLines payload side ls touched).flatten.length =
      (spliceLines [] side ls touched).flatten.length +
        payload.length * touched.flatten.length := by
    induction ls generalizing touched with
    | nil => simp_all [spliceLines]
    | cons line ls ih =>
      obtain ⟨xs, touched, rfl⟩ := List.exists_cons_of_length_eq_add_one hlength
      have hrest := ih (by simpa using hlength)
      simp only [spliceLines] at hrest
      simp only [spliceLines, List.zipWith_cons_cons, List.flatten_cons, List.length_append, hrest,
        Nat.mul_add]
      rw [Text.length_insertAt, List.length_map]
      omega
  rw [Text.length_unlines, Text.length_unlines, hsum]
  simp only [spliceLines, List.length_zipWith]
  omega

/-- **An insertion inside lines is a splice at matches.** Which matches are touched is a matter of
the text, the pattern and the selection: in a line that is not selected none, and the line stays; in
a selected one the first match or all of them, and at least one. Copies of the payload are put in at
their beginnings or at their ends, so that the text is what is left when the copies are taken out,
and its length grows by the length of the payload for every match touched. -/
theorem insert_inline (s payload : Text) (r : Pattern) (which : Which) (side : Side) :
    ∃ touched : List (List Span), touched.length = (Text.lines s).length ∧
      (∀ i line xs, (Text.lines s)[i]? = some line → touched[i]? = some xs →
        Touches r which (Text.lines s) i line xs) ∧
      insert s payload true r which side =
        Text.unlines (spliceLines payload side (Text.lines s) touched) ∧
      (∀ i, ¬IsSelected r (Text.lines s) which i →
        (spliceLines payload side (Text.lines s) touched)[i]? = (Text.lines s)[i]?) ∧
      Text.unlines (spliceLines [] side (Text.lines s) touched) = s ∧
      (insert s payload true r which side).length =
        s.length + payload.length * touched.flatten.length := by
  obtain ⟨touched, hlength, htouches, hspliced⟩ := exists_touched r which side (Text.lines s)
  have herased : Text.unlines (spliceLines [] side (Text.lines s) touched) = s := by
    have hsame : insertInline r [] side (which == .first) (selected r (Text.lines s) which)
        (Text.lines s) = Text.lines s := by
      simp [insertInline, splice_nil]
    rw [← hspliced, hsame, Text.unlines_lines]
  refine ⟨touched, hlength, htouches, by rw [insert_true_eq, hspliced], fun i hnot => ?_,
    herased, ?_⟩
  · rw [spliceLines, List.getElem?_zipWith]
    cases hline : (Text.lines s)[i]? with
    | none => rfl
    | some line =>
      have hlt : i < touched.length := by
        rw [hlength]
        exact (List.getElem?_eq_some_iff.mp hline).1
      have hnone := (htouches i line touched[i] hline (List.getElem?_eq_getElem hlt)).1 hnot
      rw [List.getElem?_eq_getElem hlt, hnone]
      exact congrArg some List.drop_zero
  · rw [insert_true_eq, hspliced, length_unlines_spliceLines payload side hlength, herased]

end Edit

end Scaffold
