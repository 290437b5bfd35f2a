import Scaffold.Pattern.Parser
import Scaffold.Proofs.Document.Split
import Scaffold.Proofs.Pattern.Search

/-!
# Runs of lines

A document can be cut in three ways, and they come to the same. The scan looks for a delimiter at
every beginning of a line. Line by line, the delimiter lines are taken out and what is left falls
into runs. And the delimiter can be written as a pattern, with a choice between a line feed and the
end of the text, and the text be cut at its matches.

The three differ in how they go on behind a delimiter. For the pattern this is a matter of where its
matches end: a match takes the line feed, so that the next one may begin right behind it, and one
that ends at the end of the text leaves nothing in which another could begin.

## Main definitions

* `Text.terminatedLines` — the lines of a text, each with its own end
* `Document.runs` — the runs of lines between delimiter lines
* `Document.delimiterPattern` — the delimiter as a pattern

## Main results

* `Document.sectionsFrom_eq_runs` — the sections are the runs
* `Document.sections_eq_pieces` — the sections are what lies between the matches of the pattern
* `Document.chunks_eq_runs` — the chunks, line by line, with nothing lost
-/

namespace Scaffold

namespace Text

variable {line s : Text}

/-- Lines with a line feed at the end of each, the last one excepted. -/
def terminate : List Text → List Text
  | [] => []
  | [line] => [line]
  | line :: next :: more => (line ++ ['\n']) :: terminate (next :: more)

/-- The lines of a text, each with its own end. The last one has none. -/
def terminatedLines (s : Text) : List Text := terminate (lines s)

theorem terminatedLines_of_not_mem (h : '\n' ∉ line) : terminatedLines line = [line] := by
  rw [terminatedLines, lines, splitOnChar_of_not_mem h, terminate]

theorem terminatedLines_append_cons (h : '\n' ∉ line) (rest : Text) :
    terminatedLines (line ++ '\n' :: rest) = (line ++ ['\n']) :: terminatedLines rest := by
  rw [terminatedLines, lines, splitOnChar_append_cons h]
  obtain ⟨next, more, hsplit⟩ := List.exists_cons_of_ne_nil (splitOnChar_ne_nil '\n' rest)
  rw [terminatedLines, lines, hsplit, terminate]

theorem flatten_terminatedLines (s : Text) : (terminatedLines s).flatten = s := by
  induction s using lineInduction with
  | last line hline => rw [terminatedLines_of_not_mem hline, List.flatten_singleton]
  | cons line rest hline ih =>
    rw [terminatedLines_append_cons hline, List.flatten_cons, ih, List.append_assoc]
    rfl

end Text

namespace Document

variable {line chunk s before after : Text} {c : Char} {nonempty : Bool} {index limit : Nat}

/-! ### Line by line -/

/-- Whether a line, which may have its end, is a delimiter. -/
def isDelimiterLine (line : Text) : Bool := isDelimiter (line.takeWhile (· != '\n'))

theorem isDelimiterLine_of_not_mem (h : '\n' ∉ line) : isDelimiterLine line = isDelimiter line := by
  have hall : ∀ c ∈ line, (c != '\n') = true := fun c hc =>
    bne_iff_ne.mpr fun heq => h (heq ▸ hc)
  rw [isDelimiterLine, List.takeWhile_eq_self_iff.mpr hall]

theorem isDelimiterLine_append_newline (h : '\n' ∉ line) :
    isDelimiterLine (line ++ ['\n']) = isDelimiter line := by
  have hall : ∀ c ∈ line, (c != '\n') = true := fun c hc =>
    bne_iff_ne.mpr fun heq => h (heq ▸ hc)
  rw [isDelimiterLine, List.takeWhile_append_of_pos hall]
  simp

/-- The runs of lines between delimiter lines. -/
def runs (s : Text) : List (List Text) := (Text.terminatedLines s).splitOnP isDelimiterLine

/-- The delimiter lines. -/
def delimiters (s : Text) : List Text := (Text.terminatedLines s).filter isDelimiterLine

/-- **The sections are the runs.** -/
theorem sectionsFrom_eq_runs (s : Text) : sectionsFrom true s = (runs s).map List.flatten := by
  induction s using Text.lineInduction with
  | last line hline =>
    rw [sectionsFrom_line hline, runs, Text.terminatedLines_of_not_mem hline,
      List.splitOnP_cons_eq_if_modifyHead, isDelimiterLine_of_not_mem hline, List.splitOnP_nil]
    split <;> simp
  | cons line rest hline ih =>
    rw [sectionsFrom_append_line hline, runs, Text.terminatedLines_append_cons hline,
      List.splitOnP_cons_eq_if_modifyHead, isDelimiterLine_append_newline hline, ih, runs]
    split
    · rfl
    · obtain ⟨first, more, hsplit⟩ := List.exists_cons_of_ne_nil
        (List.splitOnP_ne_nil isDelimiterLine (Text.terminatedLines rest))
      rw [hsplit]
      simp

theorem length_runs (s : Text) : (runs s).length = (delimiters s).length + 1 := by
  rw [runs, delimiters]
  induction Text.terminatedLines s with
  | nil => rfl
  | cons line more ih =>
    rw [List.splitOnP_cons_eq_if_modifyHead, List.filter_cons]
    split
    · rw [List.length_cons, ih, List.length_cons]
    · rw [List.length_modifyHead, ih]

/-- No line of a run is a delimiter, so that a run goes from one delimiter line to the next. -/
theorem not_isDelimiterLine_of_mem_runs {run : List Text} (h : run ∈ runs s) :
    ∀ line ∈ run, isDelimiterLine line = false := by
  rw [runs] at h
  generalize Text.terminatedLines s = ls at h
  induction ls generalizing run with
  | nil =>
    rw [List.splitOnP_nil, List.mem_singleton] at h
    simp [h]
  | cons line more ih =>
    rw [List.splitOnP_cons_eq_if_modifyHead] at h
    split at h
    · rcases List.mem_cons.mp h with rfl | h
      · simp
      · exact ih h
    · rename_i hdelimiter
      obtain ⟨first, others, hsplit⟩ := List.exists_cons_of_ne_nil
        (List.splitOnP_ne_nil isDelimiterLine more)
      rw [hsplit, List.modifyHead_cons, List.mem_cons] at h
      rcases h with rfl | h
      · rw [List.forall_mem_cons]
        exact ⟨by simpa using hdelimiter, ih (hsplit ▸ List.mem_cons_self)⟩
      · exact ih (hsplit ▸ List.mem_cons_of_mem _ h)

/-- **Nothing is lost**: the runs with the delimiter lines between them are the text. -/
theorem flatten_runs (s : Text) :
    (List.zipWith (· ++ ·) ((runs s).map List.flatten) (delimiters s ++ [[]])).flatten = s := by
  have hlines := congrArg List.flatten
    (List.splitOnP_spec (p := isDelimiterLine) (Text.terminatedLines s))
  have hends : (((delimiters s).map fun line => [line]) ++ [[]]).map List.flatten =
      delimiters s ++ [[]] := by
    simp [Function.comp_def]
  rw [Text.flatten_terminatedLines, List.flatten_flatten, List.map_zipWith] at hlines
  refine Eq.trans ?_ hlines
  rw [← hends, List.zipWith_map]
  simp only [List.flatten_append]
  rfl

/-- A section stands in the text in one piece. -/
theorem infix_of_mem_sectionsFrom (h : chunk ∈ sectionsFrom true s) : chunk <:+: s := by
  rw [sectionsFrom_eq_runs] at h
  obtain ⟨i, hi, rfl⟩ := List.mem_iff_getElem.mp h
  have hdelimiter : i < (delimiters s ++ [[]]).length := by
    simpa [length_runs] using hi
  have hmem : ((runs s).map List.flatten)[i] ++ (delimiters s ++ [[]])[i] ∈
      List.zipWith (· ++ ·) ((runs s).map List.flatten) (delimiters s ++ [[]]) := by
    refine List.mem_iff_getElem.mpr ⟨i, ?_, List.getElem_zipWith⟩
    rw [List.length_zipWith]
    exact Nat.lt_min.mpr ⟨hi, hdelimiter⟩
  have hpart := List.infix_of_mem_flatten hmem
  rw [flatten_runs] at hpart
  exact (List.prefix_append _ _).isInfix.trans hpart

/-- No line of a section is a delimiter. -/
theorem not_isDelimiterLine_of_mem_sectionsFrom (h : chunk ∈ sectionsFrom true s) :
    ∀ line ∈ Text.terminatedLines chunk, isDelimiterLine line = false := by
  have hempty : ∀ line ∈ Text.terminatedLines [], isDelimiterLine line = false := by
    decide
  induction s using Text.lineInduction generalizing chunk with
  | last line hline =>
    rw [sectionsFrom_line hline] at h
    split at h
    · simp only [List.mem_cons, List.not_mem_nil, or_false, or_self] at h
      exact h ▸ hempty
    · rename_i hdelimiter
      rw [List.mem_singleton] at h
      rw [h, Text.terminatedLines_of_not_mem hline]
      simpa [isDelimiterLine_of_not_mem hline] using hdelimiter
  | cons line rest hline ih =>
    rw [sectionsFrom_append_line hline] at h
    split at h
    · rcases List.mem_cons.mp h with rfl | h
      · exact hempty
      · exact ih h
    · rename_i hdelimiter
      obtain ⟨first, more, hsplit⟩ := List.exists_cons_of_ne_nil (sectionsFrom_ne_nil true rest)
      rw [hsplit, List.modifyHead_cons, List.mem_cons] at h
      rcases h with rfl | h
      · rw [Text.terminatedLines_append_cons hline, List.forall_mem_cons]
        refine ⟨?_, ih (hsplit ▸ List.mem_cons_self)⟩
        simpa [isDelimiterLine_append_newline hline] using hdelimiter
      · exact ih (hsplit ▸ List.mem_cons_of_mem _ h)

/-! ### By the pattern -/

open Pattern

/-- The delimiter as a pattern: at the beginning of a line three hyphens, then spaces and tabs, and
then a line feed or the end of the text. -/
def delimiterPattern : Pattern :=
  ⟨Text.of "(?m)^\\-\\-\\-[ \\t]*(?:\\n|\\Z)", { Modes.none with multiline := true },
    .seq (.anchor .lineStart) (.seq (.code 45) (.seq (.code 45) (.seq (.code 45)
      (.seq (.times 0 none .greedy (.set false [.code 32, .code 9]))
        (.either (.code 10) (.anchor .textEnd))))))⟩

theorem compile_delimiterPattern :
    Pattern.compile delimiterPattern.source = .ok delimiterPattern := by
  decide +kernel

/-- The pieces that are no matches. -/
def keptTexts (ps : List Piece) : List Text :=
  ps.filterMap fun
    | .kept s => some s
    | .found _ => none

/-- Whether a line begins behind a text, which is told backwards. -/
def isLineStart : Text → Bool
  | [] => true
  | c :: _ => c == '\n'

/-- A greedy quantifier over single characters takes all of them, if what follows cannot begin at
any of them. -/
theorem greedyTurns_one {test : Char → Bool} {k : Place → Option Place}
    (hk : ∀ p c q, p.next? = some (c, q) → test c = true → k p = none)
    {captures : List (Nat × Text)} {last : Option Nat} (hlimit : after.length < limit)
    (hlast : last ≠ some index) :
    greedyTurns (one test) limit last ⟨before, after, index, captures⟩ k =
      k ⟨(after.takeWhile test).reverse ++ before, after.dropWhile test,
        index + (after.takeWhile test).length, captures⟩ := by
  induction after generalizing limit last before index with
  | nil =>
    cases limit with
    | zero => rfl
    | succ limit =>
      rw [greedyTurns, if_neg hlast]
      rfl
  | cons c after ih =>
    cases limit with
    | zero => exact absurd hlimit (Nat.not_lt_zero _)
    | succ limit =>
      rw [greedyTurns, if_neg hlast, one]
      dsimp only [Place.next?]
      cases htest : test c with
      | false =>
        simp [htest]
      | true =>
        have hstop : k ⟨before, c :: after, index, captures⟩ = none := hk _ c _ rfl htest
        rw [if_pos rfl, ih (Nat.lt_of_succ_lt_succ hlimit) (by simp),
          List.takeWhile_cons_of_pos htest,
          List.dropWhile_cons_of_pos htest, List.reverse_cons, List.append_assoc, List.length_cons,
          hstop, Nat.add_right_comm, Nat.add_assoc]
        split
        · rename_i hanswer
          exact hanswer.symm
        · rename_i hanswer
          exact hanswer.symm

theorem sameCode_toNat {m : Modes} (h : m.ignoreCase = false) (c d : Char) :
    m.sameCode d.toNat c.toNat = (c == d) := by
  rw [Modes.sameCode, h, Bool.not_false, if_pos rfl, Bool.eq_iff_iff, beq_iff_eq, beq_iff_eq,
    Char.toNat_inj, eq_comm]

/-- A character of the pattern stands for itself. -/
theorem run_code {m : Modes} (h : m.ignoreCase = false) (d : Char) (p : Place)
    (k : Place → Option Place) : (Node.code d.toNat).run m p k = one (· == d) p k := by
  rw [Node.run]
  congr 1
  funext c
  exact sameCode_toNat h c d

/-- The spaces and tabs of a delimiter. -/
def isDelimiterBlank (c : Char) : Bool := c == ' ' || c == '\t'

/-- The end of a delimiter: a line feed, or the end of the text. -/
def delimiterEnd : Node := .either (.code 10) (.anchor .textEnd)

theorem run_delimiterEnd (p : Place) (k : Place → Option Place) :
    delimiterEnd.run delimiterPattern.modes p k = match one (· == '\n') p k with
      | some q => some q
      | none => if p.after.isEmpty then k p else none := by
  have hfeed := run_code (m := delimiterPattern.modes) rfl '\n' p k
  rw [delimiterEnd, Node.run, ← hfeed]
  rfl

/-- All spaces and tabs behind the hyphens are taken before the end is looked for, which cannot
begin with any of them. -/
theorem run_delimiterBlanks (k : Place → Option Place) :
    (Node.seq (.times 0 none .greedy (.set false [.code 32, .code 9])) delimiterEnd).run
        delimiterPattern.modes ⟨before, after, index, []⟩ k =
      delimiterEnd.run delimiterPattern.modes
        ⟨(after.takeWhile isDelimiterBlank).reverse ++ before, after.dropWhile isDelimiterBlank,
          index + (after.takeWhile isDelimiterBlank).length, []⟩ k := by
  have hset : (Node.set false [.code 32, .code 9]).run delimiterPattern.modes =
      one isDelimiterBlank := by
    funext p k
    rw [Node.run]
    congr 1
    funext c
    have hspace := sameCode_toNat (m := delimiterPattern.modes) rfl c ' '
    have htab := sameCode_toNat (m := delimiterPattern.modes) rfl c '\t'
    simp only [inSet, List.any_cons, List.any_nil, Bool.or_false, Bool.bne_false]
    rw [isDelimiterBlank, ← hspace, ← htab]
    rfl
  rw [Node.run, Node.run, hset, quantified]
  refine greedyTurns_one (fun p c q hnext hblank => ?_) (Nat.lt_add_of_pos_right (by decide))
    (by simp)
  obtain ⟨before, _ | ⟨d, rest⟩, index, captures⟩ := p
  · simp [Place.next?] at hnext
  · obtain ⟨rfl, -⟩ : d = c ∧ _ := by simpa [Place.next?] using hnext
    have hne : (d == '\n') = false := by
      rw [beq_eq_false_iff_ne]
      rintro rfl
      exact absurd hblank (by decide)
    rw [run_delimiterEnd]
    simp [one, Place.next?, hne]

theorem run_hyphens_of_ne (h : ¬∃ more, after = '-' :: '-' :: '-' :: more)
    (k : Place → Option Place) (captures : List (Nat × Text)) :
    one (· == '-') ⟨before, after, index, captures⟩
      (fun p => one (· == '-') p fun p => one (· == '-') p k) = none := by
  rcases after with _ | ⟨a, _ | ⟨b, _ | ⟨c, more⟩⟩⟩
  · rfl
  · by_cases ha : a = '-' <;> simp [one, Place.next?, ha]
  · by_cases ha : a = '-' <;> by_cases hb : b = '-' <;> simp [one, Place.next?, ha, hb]
  · by_cases ha : a = '-' <;> by_cases hb : b = '-' <;> by_cases hc : c = '-' <;>
      simp_all [one, Place.next?]

/-- **The pattern matches where the scan sees a delimiter**, and takes what the scan takes off.
Behind it a line begins, if there is anything behind it. -/
theorem run_delimiterPattern (before after : Text) {k : Place → Option Place}
    (hk : ∀ q, index < q.index → k q = some q) :
    match delimiterPattern.root.run delimiterPattern.modes ⟨before, after, index, []⟩ k with
    | none => isLineStart before = true → afterDelimiter? after = none
    | some q => isLineStart before = true ∧ afterDelimiter? after = some q.after ∧
        (q.after = [] ∨ isLineStart q.before = true) := by
  have hanchor : Anchor.lineStart.holds delimiterPattern.modes ⟨before, after, index, []⟩ =
      isLineStart before := by
    cases before <;> rfl
  have hhyphen := run_code (m := delimiterPattern.modes) rfl '-'
  have hroot : ∀ p, delimiterPattern.root.run delimiterPattern.modes p k =
      if Anchor.lineStart.holds delimiterPattern.modes p then
        one (· == '-') p fun p => one (· == '-') p fun p => one (· == '-') p fun p =>
          (Node.seq (.times 0 none .greedy (.set false [.code 32, .code 9])) delimiterEnd).run
            delimiterPattern.modes p k
      else none := fun p => by
    simp only [← hhyphen]
    rfl
  rw [hroot, hanchor]
  cases hstart : isLineStart before with
  | false => simp
  | true =>
    rw [if_pos rfl]
    by_cases hhyphens : ∃ more, after = '-' :: '-' :: '-' :: more
    · obtain ⟨more, rfl⟩ := hhyphens
      simp only [one, Place.next?, beq_self_eq_true, if_true]
      rw [run_delimiterBlanks, run_delimiterEnd, afterDelimiter?]
      have hblank : more.dropWhile isDelimiterBlank =
          more.dropWhile fun c => c == ' ' || c == '\t' := rfl
      rw [← hblank]
      rcases more.dropWhile isDelimiterBlank with _ | ⟨c, rest⟩
      · have hend := hk ⟨(more.takeWhile isDelimiterBlank).reverse ++ '-' :: '-' :: '-' :: before,
          [],
          index + 1 + 1 + 1 + (more.takeWhile isDelimiterBlank).length, []⟩ (by dsimp only; omega)
        simp [one, Place.next?, hend]
      · by_cases hc : c = '\n'
        · subst hc
          have hend := hk ⟨'\n' :: ((more.takeWhile isDelimiterBlank).reverse ++
            '-' :: '-' :: '-' :: before), rest,
            index + 1 + 1 + 1 + (more.takeWhile isDelimiterBlank).length + 1, []⟩
            (by dsimp only; omega)
          simp [one, Place.next?, hend, isLineStart]
        · simp [one, Place.next?, hc]
    · rw [run_hyphens_of_ne hhyphens]
      intro _
      unfold afterDelimiter?
      split
      · exact absurd ⟨_, rfl⟩ hhyphens
      · rfl

/-- The pieces from a place on where nothing matches begin with the next character. -/
theorem piecesFrom_of_matchAt_eq_none {r : Pattern}
    (h : r.matchAt nonempty ⟨before, c :: after, index, []⟩ = none) (hlimit : 0 < limit) :
    keptTexts (r.piecesFrom limit nonempty ⟨before, c :: after, index, []⟩) =
      (keptTexts (r.piecesFrom limit false ⟨c :: before, after, index + 1, []⟩)).modifyHead
        (c :: ·) := by
  obtain ⟨limit, rfl⟩ := Nat.exists_eq_add_one_of_ne_zero (Nat.ne_of_gt hlimit)
  unfold piecesFrom
  dsimp only
  rw [findFrom, h]
  cases r.findFrom false (c :: before) after (index + 1) <;> simp [keptTexts]

/-- Cut at the matches of the pattern from a place on, the text falls into its sections. -/
theorem keptTexts_piecesFrom (nonempty : Bool) (hlimit : after.length < limit) :
    keptTexts (delimiterPattern.piecesFrom limit nonempty ⟨before, after, index, []⟩) =
      sectionsFrom (isLineStart before) after := by
  induction hn : after.length using Nat.strongRecOn
    generalizing before after index limit nonempty with
  | ind n ih =>
    have hk : ∀ q : Place, index < q.index →
        (if nonempty && q.index == index then none else some q) = some q := fun q hq => by
      simp [Nat.ne_of_gt hq]
    have hrun := run_delimiterPattern before after hk
    cases hroot : delimiterPattern.root.run delimiterPattern.modes ⟨before, after, index, []⟩
        fun q => if nonempty && q.index == index then none else some q with
    | none =>
      have hmatch : delimiterPattern.matchAt nonempty ⟨before, after, index, []⟩ = none := by
        rw [matchAt, Option.map_eq_none_iff]
        exact hroot
      rw [hroot] at hrun
      cases after with
      | nil =>
        obtain ⟨limit, rfl⟩ := Nat.exists_eq_add_one_of_ne_zero (Nat.ne_of_gt hlimit)
        rw [sectionsFrom_nil, piecesFrom, findFrom, hmatch]
        rfl
      | cons c rest =>
        have hlt : rest.length < limit := Nat.lt_of_succ_lt hlimit
        rw [piecesFrom_of_matchAt_eq_none hmatch (Nat.zero_lt_of_lt hlimit),
          ih rest.length (by simp [← hn]) false hlt rfl, sectionsFrom_cons hrun]
        rfl
    | some q =>
      obtain ⟨limit, rfl⟩ := Nat.exists_eq_add_one_of_ne_zero
        (Nat.ne_of_gt (Nat.zero_lt_of_lt hlimit))
      rw [hroot] at hrun
      obtain ⟨hstart, hafter, hnext⟩ := hrun
      have hshorter := length_afterDelimiter?_lt hafter
      obtain ⟨taken, hmatch⟩ : ∃ taken,
          delimiterPattern.matchAt nonempty ⟨before, after, index, []⟩ =
          some (taken, { q with captures := [] }) := by
        rw [matchAt]
        exact ⟨_, congrArg (Option.map _) hroot⟩
      have hfind : delimiterPattern.findFrom nonempty before after index =
          some ([], taken, { q with captures := [] }) := by
        cases after <;> rw [findFrom, hmatch]
      have hrest : keptTexts (delimiterPattern.piecesFrom limit taken.isEmpty
          ⟨q.before, q.after, q.index, []⟩) = sectionsFrom (isLineStart q.before) q.after :=
        ih q.after.length (hn ▸ hshorter) taken.isEmpty (by omega) rfl
      have hsections : sectionsFrom (isLineStart q.before) q.after = sectionsFrom true q.after := by
        rcases hnext with hend | hnext
        · rw [hend, sectionsFrom_nil, sectionsFrom_nil]
        · rw [hnext]
      rw [hstart, sectionsFrom_of_delimiter hafter, ← hsections, ← hrest, piecesFrom, hfind]
      rfl

/-- **The sections are what lies between the matches of the pattern.** -/
theorem sections_eq_pieces (s : Text) :
    sections s = keptTexts (delimiterPattern.pieces (Text.unifyNewlines s)) := by
  have hlimit : (Text.unifyNewlines s).length < mostMatches (Text.unifyNewlines s) := by
    unfold mostMatches
    omega
  have hstart : Place.start (Text.unifyNewlines s) = ⟨[], Text.unifyNewlines s, 0, []⟩ := rfl
  rw [pieces, hstart, keptTexts_piecesFrom false hlimit]
  rfl

/-! ### The chunks -/

/-- **The chunks, line by line.** The lines of a text with unified line ends fall into runs between
the delimiter lines, and the chunks are the runs that are not blank, in their order; they are also
what the delimiter pattern leaves. Each stands in the text in one piece and holds no delimiter line,
and all runs with the delimiter lines between them are the text. -/
theorem chunks_eq_runs (s : Text) :
    let n := Text.unifyNewlines s
    (Text.terminatedLines n).flatten = n ∧
    chunks s = ((runs n).map List.flatten).filter (fun run => !Text.isBlankText run) ∧
    chunks s = (keptTexts (delimiterPattern.pieces n)).filter (fun run => !Text.isBlankText run) ∧
    (∀ chunk ∈ chunks s, chunk <:+: n ∧
      ∀ line ∈ Text.terminatedLines chunk, isDelimiterLine line = false) ∧
    (∀ run ∈ runs n, ∀ line ∈ run, isDelimiterLine line = false) ∧
    (runs n).length = (delimiters n).length + 1 ∧
    (List.zipWith (· ++ ·) ((runs n).map List.flatten) (delimiters n ++ [[]])).flatten = n := by
  intro n
  refine ⟨Text.flatten_terminatedLines n, ?_, ?_, fun chunk hchunk => ?_,
    fun run hrun => not_isDelimiterLine_of_mem_runs hrun, length_runs n, flatten_runs n⟩
  · rw [chunks, sections, sectionsFrom_eq_runs]
  · rw [chunks, sections_eq_pieces]
  · have hmem : chunk ∈ sectionsFrom true n := List.mem_of_mem_filter hchunk
    exact ⟨infix_of_mem_sectionsFrom hmem, not_isDelimiterLine_of_mem_sectionsFrom hmem⟩

end Document

end Scaffold
