import Scaffold.Proofs.Document.Append
import Scaffold.Run

/-!
# Documents as they are written

A document is written as pieces, each behind a delimiter line: chunks with a line end behind them,
and blanks that nothing comes of. Blanks may stand anywhere and be of any length, as long as the
next delimiter line begins a line. Reading it back finds the chunks, so what is read depends on the
chunks alone, and they pair up in the order in which they were written.

A chunk may hold anything but a delimiter line. It may end with a carriage return, which shares the
line end that is written behind it, and lines that only begin like a delimiter do not cut it.

## Main results

* `Document.sections_written` — the sections of a document are its pieces
* `Document.map_trimEnd_chunks_written` — and its chunks are those it was written from
* `Document.parse_written` — pairs are read back, and chunks that do not pair up are refused
-/

namespace Scaffold

namespace Document

variable {s u : Text} {total : Nat}

/-! ### Sections without a delimiter -/

/-- A text with no delimiter line is a single section. -/
theorem sectionsFrom_of_not_isDelimiter (h : ∀ line ∈ Text.lines s, isDelimiter line = false) :
    sectionsFrom true s = [s] := by
  induction s using Text.lineInduction with
  | last line hline =>
    rw [Text.lines, Text.splitOnChar_of_not_mem hline, List.forall_mem_singleton] at h
    rw [sectionsFrom_line hline, if_neg (by simp [h])]
  | cons line rest hline ih =>
    rw [Text.lines, Text.splitOnChar_append_cons hline, List.forall_mem_cons] at h
    rw [sectionsFrom_append_line hline, if_neg (by simp [h.1]), ih h.2]
    rfl

/-- The line in front of every piece, with its end. -/
def delimiterLine : Text := Text.of "---\n"

theorem sectionsFrom_delimiterLine_append (s : Text) :
    sectionsFrom true (delimiterLine ++ s) = [] :: sectionsFrom true s := by
  have hline : '\n' ∉ Text.of "---" := by decide
  exact (sectionsFrom_append_line hline s).trans (if_pos (by decide))

/-- A text with no delimiter line is the section in front of one, if it ends where a line begins. -/
theorem sectionsFrom_append_delimiterLine (h : ∀ line ∈ Text.lines u, isDelimiter line = false)
    (hend : ∀ c ∈ u.getLast?, c = '\n') (s : Text) :
    sectionsFrom true (u ++ (delimiterLine ++ s)) = u :: sectionsFrom true s := by
  rcases List.eq_nil_or_concat' u with rfl | ⟨w, c, rfl⟩
  · exact sectionsFrom_delimiterLine_append s
  · obtain rfl : c = '\n' := hend c (by simp)
    have hline : '\n' ∉ Text.of "---" := by decide
    have hcut := sectionsFrom_append_delimiter hline (by decide) w s
    rw [sectionsFrom_of_not_isDelimiter h, List.singleton_append] at hcut
    rw [List.append_assoc]
    exact hcut

/-! ### Pieces -/

/-- What stands between two delimiter lines: a chunk, or blanks. -/
inductive Piece
  | chunk (s : Text)
  | blank (s : Text)
deriving DecidableEq, Repr

namespace Piece

/-- The piece as it is written. -/
def text : Piece → Text
  | chunk s => s ++ ['\n']
  | blank s => s

/-- The chunk that a piece is. -/
def chunk? : Piece → Option Text
  | chunk s => some s
  | blank _ => none

/-- A chunk holds something, and no line of it is a delimiter. Blanks are nothing else, and end
where a line begins. -/
def IsSound : Piece → Prop
  | chunk s => Text.isBlankText (Text.unifyNewlines s) = false ∧
      ∀ line ∈ Text.lines (Text.unifyNewlines s), isDelimiter line = false
  | blank s => Text.isBlankText s = true ∧ ∀ c ∈ s.getLast?, c = '\n' ∨ c = '\r'

instance : (piece : Piece) → Decidable piece.IsSound
  | chunk _ => inferInstanceAs (Decidable (_ ∧ _))
  | blank s =>
    have := Option.decidableForallMem (p := fun c => c = '\n' ∨ c = '\r') s.getLast?
    inferInstanceAs (Decidable (_ ∧ ∀ c ∈ s.getLast?, _))

variable {piece : Piece}

theorem getLast?_text_of_isSound (h : piece.IsSound) :
    ∀ c ∈ piece.text.getLast?, c = '\n' ∨ c = '\r' := by
  cases piece with
  | chunk s => simp [text]
  | blank s => exact h.2

/-- Once its line ends are unified, a piece ends where a line begins. -/
theorem getLast?_unifyNewlines_text (h : piece.IsSound) :
    ∀ c ∈ (Text.unifyNewlines piece.text).getLast?, c = '\n' := by
  intro c hc
  rw [Text.getLast?_unifyNewlines, Option.mem_def, Option.map_eq_some_iff] at hc
  obtain ⟨d, hd, rfl⟩ := hc
  rcases getLast?_text_of_isSound h d hd with rfl | rfl <;> rfl

/-- No line of a piece is a delimiter. -/
theorem not_isDelimiter_of_mem_lines (h : piece.IsSound) :
    ∀ line ∈ Text.lines (Text.unifyNewlines piece.text), isDelimiter line = false := by
  cases piece with
  | chunk s =>
    obtain ⟨w, hboth, hw | hw⟩ := exists_unifyNewlines_append_newline s []
    · intro line hline
      rw [text, hboth, Text.unifyNewlines, Text.lines_append_newline, List.mem_append,
        List.mem_singleton, ← hw] at hline
      rcases hline with hline | rfl
      · exact h.2 line hline
      · rfl
    · rw [text, hboth, Text.unifyNewlines, ← hw]
      exact h.2
  | blank s =>
    -- a delimiter holds a hyphen, which is not blank
    intro line hline
    rw [Bool.eq_false_iff]
    intro hdelimiter
    have hhyphen : '-' ∈ line := mem_of_isDelimiter hdelimiter
    have hblank : Text.isBlankText (Text.unifyNewlines s) = true := by
      rw [Text.isBlankText_unifyNewlines, h.1]
    rw [Text.isBlankText, List.all_eq_true] at hblank
    exact absurd (hblank '-' (Text.mem_of_mem_lines hline hhyphen)) (by decide)

end Piece

/-! ### Written documents -/

variable {pieces : List Piece}

/-- The document that consists of the pieces. -/
def written (pieces : List Piece) : Text := pieces.flatMap fun piece => delimiterLine ++ piece.text

/-- The chunks among the pieces. -/
def chunksAmong (pieces : List Piece) : List Text := pieces.filterMap Piece.chunk?

@[simp] theorem chunksAmong_chunk_cons (s : Text) (pieces : List Piece) :
    chunksAmong (.chunk s :: pieces) = s :: chunksAmong pieces := rfl

@[simp] theorem chunksAmong_blank_cons (s : Text) (pieces : List Piece) :
    chunksAmong (.blank s :: pieces) = chunksAmong pieces := rfl

theorem unifyNewlines_written_cons (piece : Piece) (pieces : List Piece) :
    Text.unifyNewlines (written (piece :: pieces)) =
      delimiterLine ++ (Text.unifyNewlines piece.text ++ Text.unifyNewlines (written pieces)) := by
  have hhead : (written pieces).head? ≠ some '\n' := by
    cases pieces <;> simp [written, delimiterLine, Text.of]
  have hdelimiter : Text.unifyNewlines delimiterLine = delimiterLine := by decide
  rw [written, List.flatMap_cons, List.append_assoc, ← written,
    Text.unifyNewlines_append (fun h => absurd h (by decide)),
    Text.unifyNewlines_append (fun _ => hhead), hdelimiter]

/-- **The sections of a document are its pieces**, behind the nothing in front of the first. -/
theorem sections_written (h : ∀ piece ∈ pieces, piece.IsSound) :
    sections (written pieces) = [] :: pieces.map fun piece => Text.unifyNewlines piece.text := by
  induction pieces with
  | nil => exact sectionsFrom_of_not_isDelimiter (by decide)
  | cons piece pieces ih =>
    rw [List.forall_mem_cons] at h
    have hlines := Piece.not_isDelimiter_of_mem_lines h.1
    have hend := Piece.getLast?_unifyNewlines_text h.1
    rw [sections, unifyNewlines_written_cons, sectionsFrom_delimiterLine_append, List.map_cons]
    cases pieces with
    | nil =>
      have hlast : Text.unifyNewlines (written []) = [] := rfl
      rw [hlast, List.append_nil, sectionsFrom_of_not_isDelimiter hlines]
      rfl
    | cons next more =>
      have hrest := ih h.2
      rw [sections, unifyNewlines_written_cons, sectionsFrom_delimiterLine_append,
        List.cons.injEq] at hrest
      rw [unifyNewlines_written_cons, sectionsFrom_append_delimiterLine hlines hend, hrest.2]

theorem chunks_written (h : ∀ piece ∈ pieces, piece.IsSound) :
    chunks (written pieces) = (pieces.map fun piece => Text.unifyNewlines piece.text).filter
      fun chunk => !Text.isBlankText chunk := by
  rw [chunks, sections_written h, List.filter_cons_of_neg (by simp [Text.isBlankText])]

/-- What a chunk comes to: its line ends are unified, and the line end behind it does not count. -/
theorem trimEnd_unifyNewlines_append_newline (s : Text) :
    Text.trimEnd (Text.unifyNewlines (s ++ ['\n'])) = Text.trimEnd (Text.unifyNewlines s) := by
  have hblank : Text.isBlankText ['\n'] = true := by decide
  obtain ⟨w, hboth, hw | hw⟩ := exists_unifyNewlines_append_newline s []
  · rw [hboth, Text.unifyNewlines, hw, Text.trimEnd_append, if_pos hblank]
  · rw [hboth, Text.unifyNewlines, hw]

/-- **The chunks of a document are those it was written from**, up to blanks at their ends. -/
theorem map_trimEnd_chunks_written (h : ∀ piece ∈ pieces, piece.IsSound) :
    (chunks (written pieces)).map Text.trimEnd =
      ((chunksAmong pieces).map Text.unifyNewlines).map Text.trimEnd := by
  rw [chunks_written h]
  induction pieces with
  | nil => rfl
  | cons piece pieces ih =>
    rw [List.forall_mem_cons] at h
    have hrest := ih h.2
    cases piece with
    | chunk s =>
      have hkept : Text.isBlankText (Text.unifyNewlines (s ++ ['\n'])) = false := by
        have hs := h.1.1
        rw [Text.isBlankText_unifyNewlines, Text.isBlankText] at hs
        rw [Text.isBlankText_unifyNewlines, Text.isBlankText, List.all_append, hs, Bool.false_and]
      rw [chunksAmong_chunk_cons, List.map_cons, List.map_cons, List.map_cons,
        List.filter_cons_of_pos (by simp [Piece.text, hkept]), List.map_cons, hrest, Piece.text,
        trimEnd_unifyNewlines_append_newline]
    | blank s =>
      have hdropped : Text.isBlankText (Text.unifyNewlines s) = true := by
        rw [Text.isBlankText_unifyNewlines, h.1.1]
      rw [chunksAmong_blank_cons, List.map_cons,
        List.filter_cons_of_neg (by simp [Piece.text, hdropped]), hrest]

/-- The delimiter line in front of a document may be left out. -/
theorem parse_delimiterLine_append (s : Text) : parse (delimiterLine ++ s) = parse s := by
  have hdelimiter : Text.unifyNewlines delimiterLine = delimiterLine := by decide
  have hchunks : chunks (delimiterLine ++ s) = chunks s := by
    rw [chunks, sections, Text.unifyNewlines_append (fun h => absurd h (by decide)), hdelimiter,
      sectionsFrom_delimiterLine_append, List.filter_cons_of_neg (by simp [Text.isBlankText])]
    rfl
  rw [parse, parse, hchunks]

theorem parse_drop_delimiterLine (pieces : List Piece) :
    parse ((written pieces).drop delimiterLine.length) = parse (written pieces) := by
  cases pieces with
  | nil => rfl
  | cons piece pieces =>
    rw [written, List.flatMap_cons, List.append_assoc, List.drop_left, parse_delimiterLine_append]

/-! ### Pairs -/

/-- What a block and a body are read as. -/
def IsReadAs (x : Text × Text) (y : Directive × Text) : Prop :=
  parseDirective (Text.trim (Text.unifyNewlines x.1)) = .ok y.1 ∧
    y.2 = Text.trim (Text.unifyNewlines x.2)

variable {ps : List (Text × Text)}

/-- The chunks of blocks and bodies. -/
def pairChunks (ps : List (Text × Text)) : List Text := ps.flatMap fun x => [x.1, x.2]

theorem length_pairChunks (ps : List (Text × Text)) : (pairChunks ps).length = 2 * ps.length := by
  simp [pairChunks, List.length_flatMap, Nat.mul_comm]

/-- Blocks that are all accepted pair up with their bodies. -/
theorem exists_pairsOf (h : ∀ x ∈ ps, ∃ d,
    parseDirective (Text.trim (Text.unifyNewlines x.1)) = .ok d) :
    ∃ pairs, List.Forall₂ IsReadAs ps pairs ∧
      pairsOf total ((pairChunks ps).map Text.unifyNewlines) = .ok pairs := by
  induction ps with
  | nil => exact ⟨[], .nil, rfl⟩
  | cons x ps ih =>
    rw [List.forall_mem_cons] at h
    obtain ⟨d, hd⟩ := h.1
    obtain ⟨rest, hrest, hpairs⟩ := ih h.2
    exact ⟨_, .cons ⟨hd, rfl⟩ hrest, pairsOf_cons_eq_ok_iff.mpr ⟨d, rest, hd, hpairs, rfl⟩⟩

/-- A document is refused when its chunks are odd in number. -/
theorem parse_written_of_odd (h : ∀ piece ∈ pieces, piece.IsSound)
    (hodd : (chunksAmong pieces).length % 2 = 1) :
    parse (written pieces) = .error (.noBody (chunksAmong pieces).length) := by
  have hlength : (chunks (written pieces)).length = (chunksAmong pieces).length := by
    have hmap := congrArg List.length (map_trimEnd_chunks_written h)
    simpa using hmap
  rw [parse, hlength, if_pos hodd]

/-- **A document is read as the pairs it was written from.** Its chunks are blocks and bodies in
turn, and every block is accepted. Blanks may stand anywhere among the chunks, and the delimiter
line at the beginning may be left out. Without the last body, with whatever blanks, the document is
refused, and running it does nothing. -/
theorem parse_written (hsound : ∀ piece ∈ pieces, piece.IsSound)
    (hchunks : chunksAmong pieces = pairChunks ps)
    (haccept : ∀ x ∈ ps, ∃ d, parseDirective (Text.trim (Text.unifyNewlines x.1)) = .ok d) :
    (∃ pairs, List.Forall₂ IsReadAs ps pairs ∧ parse (written pieces) = .ok pairs ∧
        parse ((written pieces).drop delimiterLine.length) = .ok pairs) ∧
      (ps ≠ [] → ∀ cut : List Piece, (∀ piece ∈ cut, piece.IsSound) →
        chunksAmong cut = (pairChunks ps).dropLast →
        ∀ s ∈ [written cut, (written cut).drop delimiterLine.length],
          parse s = .error (.noBody (2 * ps.length - 1)) ∧
            ∀ {σ : Type} [Storage σ] (wd : Option Path) (p : Run.Progress σ),
              Run.document wd s p = (.error (.document (.noBody (2 * ps.length - 1))), p)) := by
  constructor
  · obtain ⟨pairs, hread, hpairs⟩ := exists_pairsOf haccept
    have hparse : parse (written pieces) = .ok pairs := by
      rw [parse_eq_ok_iff, pairsOf_congr (map_trimEnd_chunks_written hsound), hchunks]
      exact hpairs
    exact ⟨pairs, hread, hparse, (parse_drop_delimiterLine pieces).trans hparse⟩
  · intro hne cut hcut hdropped
    have hlength : (chunksAmong cut).length = 2 * ps.length - 1 := by
      rw [hdropped, List.length_dropLast, length_pairChunks]
    have hpos := List.length_pos_iff.mpr hne
    have hrefused := parse_written_of_odd hcut (by omega)
    rw [hlength] at hrefused
    have hboth : ∀ s ∈ [written cut, (written cut).drop delimiterLine.length],
        parse s = .error (.noBody (2 * ps.length - 1)) := by
      simp [parse_drop_delimiterLine, hrefused]
    intro s hs
    refine ⟨hboth s hs, fun wd p => ?_⟩
    rw [Run.document, hboth s hs]

/-- A block that ends with a carriage return, a body with lines that only begin like a delimiter,
and blanks in front, in between and behind. -/
def mixedPieces : List Piece :=
  [.blank [], .chunk (Text.of "to: a\r"), .blank (Text.of " \r\n\t\r"),
    .chunk (Text.of "\n --- \n----\n--- -"), .blank [], .chunk (Text.of "message: m\r\nto: b"),
    .chunk (Text.of "\u00a0x\r\r"), .blank (Text.of "\u2028\n")]

/-- The blocks and bodies of `mixedPieces`. -/
def mixedPairs : List (Text × Text) :=
  [(Text.of "to: a\r", Text.of "\n --- \n----\n--- -"),
    (Text.of "message: m\r\nto: b", Text.of "\u00a0x\r\r")]

theorem parse_written_mixed :
    (∃ pairs, List.Forall₂ IsReadAs mixedPairs pairs ∧ parse (written mixedPieces) = .ok pairs ∧
        parse ((written mixedPieces).drop delimiterLine.length) = .ok pairs) ∧
      parse (written (mixedPieces.eraseIdx 6)) = .error (.noBody 3) := by
  have hsound : ∀ piece ∈ mixedPieces, piece.IsSound := by decide +kernel
  have hcut : ∀ piece ∈ mixedPieces.eraseIdx 6, piece.IsSound := by decide +kernel
  have haccept : ∀ x ∈ mixedPairs, ∃ d,
      parseDirective (Text.trim (Text.unifyNewlines x.1)) = .ok d := by
    have hfirst : parseDirective (Text.of "to: a") = .ok ⟨['a'], false, none, none, []⟩ := by
      decide +kernel
    have hsecond : parseDirective (Text.of "message: m\nto: b") =
        .ok ⟨['b'], false, none, some ['m'], []⟩ := by decide +kernel
    exact List.forall_mem_cons.mpr ⟨⟨_, hfirst⟩, List.forall_mem_singleton.mpr ⟨_, hsecond⟩⟩
  have hchunks : chunksAmong mixedPieces = pairChunks mixedPairs := by decide
  obtain ⟨hread, hrefused⟩ := parse_written hsound hchunks haccept
  exact ⟨hread, (hrefused (by decide) _ hcut (by decide) _ List.mem_cons_self).1⟩

end Document

end Scaffold
