import Mathlib.Data.List.Chain
import Scaffold.Document.Parse
import Scaffold.Proofs.Text.Lines
import Scaffold.Text.Search

/-!
# Line ends of a document

A document may be written with any line ends, and with different ones in different places: a line
feed, a carriage return with a line feed, or a carriage return alone. What is read is the same as if
all of them were line feeds.

There is one thing that cannot be written this way. Behind a line that a lone carriage return ends,
an empty line that a line feed ends is not seen, because the two characters are one line end.

## Main definitions

* `Text.LineEnd`, `Text.EndedLine` — lines and what ends them
* `Text.endedText` — the text that they make

## Main results

* `Text.unifyNewlines_eq_replaced` — line ends are unified by two replacements in a row
* `Text.unifyNewlines_endedText` — the unified text has its lines joined with line feeds
* `Document.parse_unifyNewlines` — a document with unified line ends
* `Document.parse_endedText` — a document means the same under any line ends
-/

namespace Scaffold

variable {s rest last : Text}

namespace Text

/-! ### Two replacements -/

theorem join_modifyHead_cons {parts : List Text} (hne : parts ≠ []) (sep : Text) (c : Char) :
    join sep (parts.modifyHead (c :: ·)) = c :: join sep parts := by
  obtain ⟨first, more, rfl⟩ := List.exists_cons_of_ne_nil hne
  cases more <;> simp [join]

theorem splitAtFirst_ne_nil (sep : Text) (limit : Nat) (s : Text) :
    splitAtFirst sep limit s ≠ [] := by
  cases limit with
  | zero => simp [splitAtFirst]
  | succ limit =>
    rw [splitAtFirst]
    split <;> simp

variable {old new : Text}

theorem replaced_nil (hold : old ≠ []) (new : Text) (limit : Nat) :
    replaced old new limit [] = [] := by
  cases limit <;> simp [replaced, splitAtFirst, cutAt?, hold, join]

/-- Where the text that is replaced does not begin, a character stays. -/
theorem replaced_cons (hold : old ≠ []) {c : Char} (h : ¬ old <+: c :: rest) (limit : Nat) :
    replaced old new limit (c :: rest) = c :: replaced old new limit rest := by
  have hsplit : splitAtFirst old limit (c :: rest) =
      (splitAtFirst old limit rest).modifyHead (c :: ·) := by
    cases limit with
    | zero => rfl
    | succ limit =>
      rw [splitAtFirst, splitAtFirst, cutAt?, if_neg (by rwa [List.isPrefixOf_iff_prefix])]
      cases cutAt? old rest <;> rfl
  rw [replaced, if_neg (by simpa using hold), hsplit,
    join_modifyHead_cons (splitAtFirst_ne_nil _ _ _), replaced, if_neg (by simpa using hold)]

/-- Where it begins, all of it is replaced. -/
theorem replaced_append (hold : old ≠ []) (new : Text) (limit : Nat) (rest : Text) :
    replaced old new (limit + 1) (old ++ rest) = new ++ replaced old new limit rest := by
  have hcut : cutAt? old (old ++ rest) = some ([], rest) := by
    obtain ⟨c, more, rfl⟩ := List.exists_cons_of_ne_nil hold
    rw [List.cons_append, cutAt?, if_pos (by simp), ← List.cons_append, List.drop_left]
  obtain ⟨part, parts, hsplit⟩ := List.exists_cons_of_ne_nil (splitAtFirst_ne_nil old limit rest)
  simp [replaced, hold, splitAtFirst, hcut, hsplit, join, List.intercalate_cons_cons]

/-- **Two replacements**: first every carriage return with a line feed behind it, then every
carriage return that is left. -/
theorem unifyNewlines_eq_replaced {n m : Nat} (hn : s.length ≤ n) (hm : s.length ≤ m) :
    unifyNewlines s = replaced ['\r'] ['\n'] m (replaced ['\r', '\n'] ['\n'] n s) := by
  induction s using unifyNewlines.induct generalizing n m with
  | case1 => rw [replaced_nil (by simp), replaced_nil (by simp)]; rfl
  | case2 rest ih =>
    rw [List.length_cons, List.length_cons] at hn hm
    obtain ⟨n, rfl⟩ : ∃ k, n = k + 1 := ⟨n - 1, by omega⟩
    have hinner : replaced ['\r', '\n'] ['\n'] (n + 1) ('\r' :: '\n' :: rest) =
        '\n' :: replaced ['\r', '\n'] ['\n'] n rest :=
      replaced_append (List.cons_ne_nil _ _) _ n rest
    rw [unifyNewlines, hinner, replaced_cons (by simp) (by simp), ← ih (by omega) (by omega)]
  | case3 c rest hne ih =>
    rw [List.length_cons] at hn hm
    have hapart : ¬ ['\r', '\n'] <+: c :: rest := by
      rintro ⟨more, hmore⟩
      obtain ⟨rfl, hrest⟩ := List.cons.inj hmore
      exact hne more rfl hrest.symm
    rw [unifyNewlines, replaced_cons (by simp) hapart]
    · by_cases hc : c = '\r'
      · obtain ⟨m, rfl⟩ : ∃ k, m = k + 1 := ⟨m - 1, by omega⟩
        have houter := replaced_append (List.cons_ne_nil '\r' []) ['\n'] m
          (replaced ['\r', '\n'] ['\n'] n rest)
        rw [List.singleton_append, List.singleton_append] at houter
        rw [if_pos hc, hc, houter, ← ih (by omega) (by omega)]
      · rw [if_neg hc, replaced_cons (by simp) (by simpa using Ne.symm hc),
          ← ih (by omega) (by omega)]
    · exact hne

/-! ### Lines and their ends -/

/-- What ends a line. -/
inductive LineEnd
  | lf
  | crlf
  | cr
deriving DecidableEq, Repr

/-- The end of a line in a text. -/
def LineEnd.text : LineEnd → Text
  | lf => ['\n']
  | crlf => ['\r', '\n']
  | cr => ['\r']

/-- A line and what ends it. -/
structure EndedLine where
  line : Text
  ending : LineEnd
  cr_not_mem : '\r' ∉ line := by decide
  lf_not_mem : '\n' ∉ line := by decide
deriving DecidableEq, Repr

/-- Lines with an end each, and a last line that has none. -/
def endedText : List EndedLine → (last : Text) → Text
  | [], last => last
  | l :: ls, last => l.line ++ l.ending.text ++ endedText ls last

/-- Two lines in a row that do not run into one: not a lone carriage return and an empty line with
a line feed. -/
def EndedLine.IsApart (l next : EndedLine) : Prop :=
  ¬(l.ending = .cr ∧ next.line = [] ∧ next.ending = .lf)

instance (l next : EndedLine) : Decidable (l.IsApart next) :=
  inferInstanceAs (Decidable (¬_))

variable {ls : List EndedLine}

theorem unifyNewlines_line_append (l : EndedLine) :
    unifyNewlines (l.line ++ l.ending.text) = l.line ++ ['\n'] := by
  have hcut : l.line.getLast? = some '\r' → l.ending.text.head? ≠ some '\n' := fun h =>
    absurd (List.mem_of_getLast? h) l.cr_not_mem
  rw [unifyNewlines_append hcut, unifyNewlines_of_not_mem l.cr_not_mem]
  cases l.ending <;> rfl

/-- No line feed begins what stands behind a lone carriage return. -/
theorem head?_endedText_ne {l : EndedLine} (hl : l.ending = .cr)
    (h : (l :: ls).IsChain EndedLine.IsApart) (hlast : '\n' ∉ last) :
    (endedText ls last).head? ≠ some '\n' := by
  cases ls with
  | nil => exact fun hhead => hlast (List.mem_of_head? hhead)
  | cons next more =>
    have hapart : l.IsApart next := (List.isChain_cons_cons.mp h).1
    intro hhead
    rcases hline : next.line with _ | ⟨c, tail⟩
    · have hend : next.ending ≠ .lf := fun hlf => hapart ⟨hl, hline, hlf⟩
      cases hending : next.ending <;> simp_all [endedText, LineEnd.text]
    · rw [endedText, hline, List.cons_append, List.cons_append, List.head?_cons,
        Option.some.injEq] at hhead
      exact next.lf_not_mem (hline ▸ hhead ▸ List.mem_cons_self)

/-- **The lines of a text, joined with line feeds**, are what unifying its line ends leaves. -/
theorem unifyNewlines_endedText (h : ls.IsChain EndedLine.IsApart) (hcr : '\r' ∉ last)
    (hlf : '\n' ∉ last) :
    unifyNewlines (endedText ls last) = unlines (ls.map EndedLine.line ++ [last]) := by
  induction ls with
  | nil => simpa [endedText, unlines, join] using unifyNewlines_of_not_mem hcr
  | cons l ls ih =>
    have hcut : (l.line ++ l.ending.text).getLast? = some '\r' →
        (endedText ls last).head? ≠ some '\n' := by
      intro hcr
      refine head?_endedText_ne ?_ h hlf
      cases hending : l.ending <;> simp_all [LineEnd.text]
    have hjoin : unlines (l.line :: (ls.map EndedLine.line ++ [last])) =
        l.line ++ ['\n'] ++ unlines (ls.map EndedLine.line ++ [last]) := by
      obtain ⟨first, more, hmore⟩ :=
        List.exists_cons_of_ne_nil (List.append_ne_nil_of_right_ne_nil (ls.map EndedLine.line)
          (List.cons_ne_nil last []))
      rw [hmore, unlines, join, List.intercalate_cons_cons]
      rfl
    rw [endedText, unifyNewlines_append hcut, unifyNewlines_line_append, ih h.tail,
      List.map_cons, List.cons_append, hjoin]

end Text

namespace Document

open Text

/-- A document is read with its line ends unified. -/
theorem chunks_unifyNewlines (s : Text) : chunks (unifyNewlines s) = chunks s := by
  rw [chunks, chunks, sections, sections, unifyNewlines_of_not_mem (cr_not_mem_unifyNewlines s)]

theorem parse_unifyNewlines (s : Text) : parse (unifyNewlines s) = parse s := by
  rw [parse, parse, chunks_unifyNewlines]

/-- **A document means the same under any line ends.** However its lines are ended, as long as no
two ends run into one, it has the chunks and the pairs, or the failure, of the document with line
feeds in their place. Unified line ends are line feeds only, and stay as they are. -/
theorem parse_endedText :
    (∀ (ls : List EndedLine) (last : Text), ls.IsChain EndedLine.IsApart → '\r' ∉ last →
      '\n' ∉ last →
        unifyNewlines (endedText ls last) = unlines (ls.map EndedLine.line ++ [last]) ∧
        chunks (endedText ls last) = chunks (unlines (ls.map EndedLine.line ++ [last])) ∧
        parse (endedText ls last) = parse (unlines (ls.map EndedLine.line ++ [last]))) ∧
    ∀ s, '\r' ∉ unifyNewlines s ∧ unifyNewlines (unifyNewlines s) = unifyNewlines s := by
  refine ⟨fun ls last h hcr hlf => ?_, fun s => ⟨cr_not_mem_unifyNewlines s, ?_⟩⟩
  · have hunified := unifyNewlines_endedText h hcr hlf
    rw [← hunified, chunks_unifyNewlines, parse_unifyNewlines]
    exact ⟨rfl, rfl, rfl⟩
  · exact unifyNewlines_of_not_mem (cr_not_mem_unifyNewlines s)

/-- A document in which no line ends like the one before it. -/
def mixedLines : List EndedLine :=
  [{ line := of "---", ending := .cr }, { line := of "to: a", ending := .crlf },
    { line := of "---", ending := .lf }, { line := of "x", ending := .cr },
    { line := [], ending := .crlf }]

theorem parse_endedText_mixed :
    mixedLines.IsChain EndedLine.IsApart ∧
      endedText mixedLines (of "y") = of "---\rto: a\r\n---\nx\r\r\ny" ∧
      parse (endedText mixedLines (of "y")) = parse (of "---\nto: a\n---\nx\n\ny") :=
  have hapart : mixedLines.IsChain EndedLine.IsApart := by decide
  ⟨hapart, by decide, (parse_endedText.1 mixedLines (of "y") hapart (by decide) (by decide)).2.2⟩

end Document

end Scaffold
