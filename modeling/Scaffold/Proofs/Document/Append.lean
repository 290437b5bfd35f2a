import Scaffold.Document.Parse
import Scaffold.Proofs.Document.Split
import Scaffold.Proofs.Text.Trim

/-!
# Documents one behind the other

Two documents with a delimiter line between them are read as the pairs of the first and then the
pairs of the second. The first one may end in the middle of a line, with a delimiter line of its
own, or with a carriage return that shares a line end with what is put behind it.

Chunks are trimmed before they are used, so chunks that differ in the blanks behind them are as
good as equal.

## Main results

* `Document.sections_append` — the sections of both, up to blanks
* `Document.parse_append` — the pairs of both
-/

namespace Scaffold

namespace Document

variable {cs ds : List Text} {ps qs : List (Directive × Text)} {s t : Text} {total n m : Nat}

/-! ### Sections -/

/-- A line end behind a text does not show once its sections are trimmed. -/
theorem map_trimEnd_sectionsFrom_newline (s : Text) :
    (sectionsFrom true (s ++ ['\n'])).map Text.trimEnd =
      (sectionsFrom true s).map Text.trimEnd := by
  have hblank : Text.isBlankText ['\n'] = true := by decide
  induction s using Text.lineInduction with
  | last line hline =>
    rw [sectionsFrom_append_line hline, sectionsFrom_line hline, sectionsFrom_nil]
    split
    · rfl
    · simp [Text.trimEnd_append, hblank]
  | cons line rest hline ih =>
    rw [List.append_assoc, List.cons_append, sectionsFrom_append_line hline,
      sectionsFrom_append_line hline]
    split
    · rw [List.map_cons, List.map_cons, ih]
    · obtain ⟨a, as, ha⟩ :=
        List.exists_cons_of_ne_nil (sectionsFrom_ne_nil true (rest ++ ['\n']))
      obtain ⟨b, bs, hb⟩ := List.exists_cons_of_ne_nil (sectionsFrom_ne_nil true rest)
      rw [ha, hb, List.map_cons, List.map_cons, List.cons.injEq] at ih
      -- equal ends make for equal ends behind the same line
      have hisBlank : Text.isBlankText a = Text.isBlankText b := by
        rw [Bool.eq_iff_iff, ← Text.trimEnd_eq_nil_iff, ← Text.trimEnd_eq_nil_iff, ih.1]
      have hhead : Text.trimEnd (line ++ '\n' :: a) = Text.trimEnd (line ++ '\n' :: b) := by
        rw [List.append_cons line '\n' a, List.append_cons line '\n' b, Text.trimEnd_append,
          hisBlank, ih.1, ← Text.trimEnd_append]
      rw [ha, hb, List.modifyHead_cons, List.modifyHead_cons, List.map_cons, List.map_cons, hhead,
        ih.2]

/-- A text with a line feed and more behind it, when line ends are unified. A carriage return
that ends the text becomes that line feed. -/
theorem exists_unifyNewlines_append_newline (s t : Text) :
    ∃ w, Text.unifyNewlines (s ++ '\n' :: t) = w ++ '\n' :: Text.unifyNewlines t ∧
      (Text.unifyNewlines s = w ∨ Text.unifyNewlines s = w ++ ['\n']) := by
  by_cases hlast : s.getLast? = some '\r'
  · obtain ⟨b, rfl⟩ := List.getLast?_eq_some_iff.mp hlast
    refine ⟨Text.unifyNewlines b, ?_, Or.inr ?_⟩
    · rw [List.append_assoc, List.singleton_append, Text.unifyNewlines_append (by simp),
        Text.unifyNewlines]
    · rw [Text.unifyNewlines_append (by simp)]
      rfl
  · refine ⟨Text.unifyNewlines s, ?_, Or.inl rfl⟩
    rw [Text.unifyNewlines_append fun h => absurd h hlast]
    simp [Text.unifyNewlines]

/-- **The sections of two documents**, up to blanks at their ends. -/
theorem sections_append (s t : Text) :
    (sections (s ++ Text.of "\n---\n" ++ t)).map Text.trimEnd =
      (sections s ++ sections t).map Text.trimEnd := by
  have hseparator : s ++ Text.of "\n---\n" ++ t = s ++ '\n' :: (Text.of "---\n" ++ t) := by
    simp [Text.of]
  obtain ⟨w, hboth, hfirst⟩ := exists_unifyNewlines_append_newline s (Text.of "---\n" ++ t)
  have hrest : Text.unifyNewlines (Text.of "---\n" ++ t) =
      Text.of "---" ++ '\n' :: Text.unifyNewlines t := by
    simp [Text.of, Text.unifyNewlines]
  have hcut : sections (s ++ Text.of "\n---\n" ++ t) =
      sectionsFrom true (w ++ ['\n']) ++ sections t := by
    rw [sections, hseparator, hboth, hrest, sectionsFrom_append_delimiter (by decide) (by decide)]
    rfl
  have hends : (sectionsFrom true (w ++ ['\n'])).map Text.trimEnd =
      (sections s).map Text.trimEnd := by
    rcases hfirst with h | h
    · rw [map_trimEnd_sectionsFrom_newline, sections, h]
    · rw [sections, h]
  rw [hcut, List.map_append, hends, List.map_append]

/-! ### Chunks -/

theorem map_trimEnd_chunks (s : Text) :
    (chunks s).map Text.trimEnd =
      ((sections s).map Text.trimEnd).filter fun chunk => !chunk.isEmpty := by
  have hkept : ∀ chunk : Text, (!Text.isBlankText chunk) = !(Text.trimEnd chunk).isEmpty := by
    intro chunk
    rw [Bool.not_inj_iff, Bool.eq_iff_iff, List.isEmpty_iff, Text.trimEnd_eq_nil_iff]
  rw [chunks, List.filter_map]
  simp only [hkept, Function.comp_def]

theorem map_trimEnd_chunks_append (s t : Text) :
    (chunks (s ++ Text.of "\n---\n" ++ t)).map Text.trimEnd =
      (chunks s ++ chunks t).map Text.trimEnd := by
  rw [map_trimEnd_chunks, sections_append, List.map_append, List.filter_append,
    ← map_trimEnd_chunks, ← map_trimEnd_chunks, List.map_append]

/-! ### Pairs -/

/-- Blanks behind the chunks change nothing. -/
theorem pairsOf_congr (h : cs.map Text.trimEnd = ds.map Text.trimEnd) :
    pairsOf total cs = pairsOf total ds := by
  have htrim : ∀ {a b : Text}, Text.trimEnd a = Text.trimEnd b → Text.trim a = Text.trim b := by
    intro a b hab
    rw [← Text.trim_trimEnd a, hab, Text.trim_trimEnd]
  induction cs using pairsOf.induct generalizing ds with
  | case1 => rw [List.map_nil, eq_comm, List.map_eq_nil_iff] at h; rw [h]
  | case2 a =>
    obtain ⟨b, rfl, -⟩ := List.map_eq_singleton_iff.mp h.symm
    rfl
  | case3 block body rest ih =>
    obtain ⟨block', ds, rfl, hblock, h⟩ := List.map_eq_cons_iff.mp h.symm
    obtain ⟨body', ds, rfl, hbody, h⟩ := List.map_eq_cons_iff.mp h
    rw [pairsOf, pairsOf, htrim hblock, htrim hbody, ih h.symm]

theorem pairsOf_cons_eq_ok_iff {block body : Text} :
    pairsOf total (block :: body :: cs) = .ok ps ↔
      ∃ d rest, parseDirective (Text.trim block) = .ok d ∧ pairsOf total cs = .ok rest ∧
        ps = (d, Text.trim body) :: rest := by
  rw [pairsOf]
  rcases parseDirective (Text.trim block) with _ | d
  · simp [bind, Except.bind]
  · rcases pairsOf total cs with _ | rest <;> simp [bind, Except.bind, pure, Except.pure, eq_comm]

theorem length_of_pairsOf (h : pairsOf total cs = .ok ps) : cs.length = 2 * ps.length := by
  induction cs using pairsOf.induct generalizing ps with
  | case1 =>
    obtain rfl : [] = ps := by simpa [pairsOf] using h
    rfl
  | case2 => simp [pairsOf] at h
  | case3 block body rest ih =>
    obtain ⟨d, more, -, hrest, rfl⟩ := pairsOf_cons_eq_ok_iff.mp h
    have hlength := ih hrest
    simp
    omega

/-- How many chunks there are in all is for the failure only. -/
theorem pairsOf_of_eq_ok (h : pairsOf n cs = .ok ps) (total : Nat) :
    pairsOf total cs = .ok ps := by
  induction cs using pairsOf.induct generalizing ps with
  | case1 => exact h
  | case2 => simp [pairsOf] at h
  | case3 block body rest ih =>
    obtain ⟨d, more, hd, hrest, rfl⟩ := pairsOf_cons_eq_ok_iff.mp h
    exact pairsOf_cons_eq_ok_iff.mpr ⟨d, more, hd, ih hrest, rfl⟩

theorem pairsOf_append (hcs : pairsOf n cs = .ok ps) (hds : pairsOf m ds = .ok qs)
    (total : Nat) : pairsOf total (cs ++ ds) = .ok (ps ++ qs) := by
  induction cs using pairsOf.induct generalizing ps with
  | case1 =>
    obtain rfl : [] = ps := by simpa [pairsOf] using hcs
    exact pairsOf_of_eq_ok hds total
  | case2 => simp [pairsOf] at hcs
  | case3 block body rest ih =>
    obtain ⟨d, more, hd, hrest, rfl⟩ := pairsOf_cons_eq_ok_iff.mp hcs
    exact pairsOf_cons_eq_ok_iff.mpr ⟨d, more ++ qs, hd, ih hrest, rfl⟩

theorem parse_eq_ok_iff :
    parse s = .ok ps ↔ pairsOf (chunks s).length (chunks s) = .ok ps := by
  rw [parse]
  split
  · rename_i hodd
    constructor
    · simp
    · intro h
      have hlength := length_of_pairsOf h
      omega
  · rfl

/-- **The pairs of two documents.** -/
theorem parse_append (hs : parse s = .ok ps) (ht : parse t = .ok qs) :
    parse (s ++ Text.of "\n---\n" ++ t) = .ok (ps ++ qs) := by
  rw [parse_eq_ok_iff] at hs ht ⊢
  rw [pairsOf_congr (map_trimEnd_chunks_append s t)]
  exact pairsOf_append hs ht _

end Document

end Scaffold
