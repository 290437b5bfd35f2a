import Mathlib.Algebra.Group.Nat.Defs
import Mathlib.Data.List.Induction
import Scaffold.Proofs.Yaml.Margin.Mark

/-!
# Quoted scalars within margins
-/

namespace Scaffold

namespace Yaml

set_option synthInstance.maxSize 10000

namespace Lexer

variable {m : Margin} {c : Cursor}

theorem isGap_of_blank {t : Char} (h : (t == ' ' || t == '\t') = true) : isGap t = true := by
  rw [isGap, h, Bool.true_or]

theorem quotedBreaks_tracks {n₁ n₂ : Nat} (hc : c.Inside m) (h₁ : c.rest.length < n₁)
    (h₂ : c.rest.length < n₂) :
    Tracks m (Cursor.Inside m) c (quotedBreaks n₁) (quotedBreaks n₂) := by
  induction n₂ generalizing c n₁ with
  | zero => exact absurd h₂ (Nat.not_lt_zero _)
  | succ n₂ ih =>
    obtain ⟨n₁, rfl⟩ := Nat.exists_eq_add_one_of_ne_zero (n := n₁) (by omega)
    rw [quotedBreaks, quotedBreaks]
    refine .get_bind ?_
    rw [Cursor.atAnyMarker_within]
    refine .guard id (fun _ => .fail_bind) fun _ => ?_
    have hle := (c.leads_skipWhile fun x => x == ' ' || x == '\t').length_le
    refine .skipGaps_bind hc (fun _ => isGap_of_blank) fun hc => .peek_bind ?_
    rw [hc.shows.peek_within]
    refine .ite Iff.rfl (fun hbreak => ?_) fun _ => .pure ⟨hc, rfl⟩ _
    have hlt := Cursor.length_takeBreak_lt hbreak
    refine .takeBreak_bind hc fun hc => .seq (ih hc (by omega) (by omega)) ?_
    rintro more _ c' - ⟨hc', rfl⟩
    exact .pure ⟨hc', rfl⟩ _

theorem quotedBlanks_tracks {n₁ n₂ : Nat} (hc : c.Inside m) (h₁ : c.rest.length ≤ n₁)
    (h₂ : c.rest.length ≤ n₂) :
    Tracks m (Cursor.Inside m) c (quotedBlanks n₁) (quotedBlanks n₂) := by
  unfold quotedBlanks
  have hle := (c.leads_skipWhile fun x => x == ' ' || x == '\t').length_le
  refine .takeGaps_bind hc (fun _ => isGap_of_blank) fun hc => .peek_bind ?_
  rw [hc.shows.peek_within]
  refine .ite Iff.rfl (fun _ => .fail) fun _ => .ite Iff.rfl (fun hbreak => ?_) fun _ =>
    .pure ⟨hc, rfl⟩ _
  have hlt := Cursor.length_takeBreak_lt hbreak
  refine .takeBreak_bind hc fun hc => .seq (quotedBreaks_tracks hc (by omega) (by omega)) ?_
  rintro more _ c' - ⟨hc', rfl⟩
  exact .pure ⟨hc', rfl⟩ _

theorem hexDigit_lt {c : Char} (h : isHex c = true) :
    (if c.isDigit then c.toNat - 48 else if 'a' ≤ c then c.toNat - 87 else c.toNat - 55) < 16 := by
  have hval : c.toNat = c.val.toNat := rfl
  simp only [isHex, Char.isDigit, Bool.or_eq_true, Bool.and_eq_true, decide_eq_true_eq, Char.le_def,
    UInt32.le_iff_toNat_le, ge_iff_le] at h ⊢
  simp at h ⊢
  split
  · omega
  · split <;> omega

theorem hexValue_lt {digits : Text} (h : digits.all isHex = true) :
    hexValue digits < 16 ^ digits.length := by
  induction digits using List.reverseRecOn with
  | nil => exact Nat.one_pos
  | append_singleton ds c ih =>
    rw [List.all_append, Bool.and_eq_true] at h
    have hds := ih h.1
    have hc := hexDigit_lt (by simpa using h.2)
    rw [hexValue, List.foldl_append, List.length_append, ← hexValue]
    simp only [List.foldl_cons, List.foldl_nil, List.length_singleton, Nat.pow_succ]
    omega

/-- As many digits as are asked for are digits of the text. -/
theorem digits_within {n count : Nat} (hn : n ≤ c.rest.length)
    (hlength : (((c.within m).rest.drop n).take count).length = count)
    (hhex : (((c.within m).rest.drop n).take count).all isHex = true) :
    ((c.within m).rest.drop n).take count = (c.rest.drop n).take count ∧
      count + n ≤ c.rest.length := by
  rw [Cursor.rest_within, List.drop_append_of_le_length hn, List.take_append] at hlength hhex ⊢
  rw [List.all_append, Bool.and_eq_true] at hhex
  have hnone : m.behind.take (count - (c.rest.drop n).length) = [] := by
    rw [List.eq_nil_iff_forall_not_mem]
    intro t ht
    have hgap := m.blank t (List.mem_of_mem_take ht)
    have hdigit := List.all_eq_true.mp hhex.2 t ht
    exact absurd (hdigit.symm.trans (eq_false_of_isGap (by decide) t hgap)) (by decide)
  rw [hnone, List.append_nil] at hlength ⊢
  rw [List.length_take, List.length_drop] at hlength
  exact ⟨rfl, by omega⟩

theorem numericEscape_tracks (hc : c.Solid) (hpos : 0 < c.rest.length) (count : Nat) :
    Tracks m Cursor.Solid c (numericEscape count) (numericEscape count) := by
  unfold numericEscape
  refine .get_bind ?_
  dsimp only
  by_cases hdigits : (((c.within m).rest.drop 1).take count).length = count ∧
      (((c.within m).rest.drop 1).take count).all isHex = true
  · obtain ⟨hsame, hlength⟩ := digits_within hpos hdigits.1 hdigits.2
    rw [hsame]
    refine .guard id (fun _ => .fail_bind) fun _ => .skip_bind hc hlength ?_
    refine .guard id (fun _ => .throw_bind) fun _ => .guard id (fun _ => .throw_bind) fun _ => ?_
    exact .pure ⟨hc.advance _, rfl⟩ _
  · rw [if_pos (by simpa [-not_and, Decidable.not_and_iff_not_or_not] using hdigits)]
    exact .fail_bind

/-- The second half of a surrogate pair has all its digits, since fewer would be a smaller
number. -/
theorem length_of_isLowHalf {digits : Text} (h : isLowHalf (digits.take 4) = true) :
    (digits.take 4).length = 4 := by
  simp only [isLowHalf, Bool.and_eq_true, decide_eq_true_eq] at h
  refine Nat.le_antisymm (List.length_take_le 4 digits) (Nat.le_of_not_lt fun hlt => ?_)
  have hbound : 16 ^ (digits.take 4).length ≤ 16 ^ 3 :=
    Nat.pow_le_pow_right (by decide) (Nat.le_of_lt_succ hlt)
  have hvalue := hexValue_lt h.1.1
  omega

theorem isLowHalf_within {n : Nat} (hn : n ≤ c.rest.length) :
    isLowHalf (((c.within m).rest.drop n).take 4) = isLowHalf ((c.rest.drop n).take 4) := by
  rw [Bool.eq_iff_iff]
  refine ⟨fun h => ?_, fun h => ?_⟩
  · have hhex : (((c.within m).rest.drop n).take 4).all isHex = true := by
      simp only [isLowHalf, Bool.and_eq_true] at h
      exact h.1.1
    rwa [← (digits_within hn (length_of_isLowHalf h) hhex).1]
  · have hlength := length_of_isLowHalf h
    rw [List.length_take] at hlength
    rwa [Cursor.rest_within, List.drop_append_of_le_length hn,
      List.take_append_of_le_length (by omega)]

theorem escapedChar_tracks (hc : c.Solid) (hpos : 0 < c.rest.length) (count : Nat) :
    Tracks m Cursor.Solid c (escapedChar count) (escapedChar count) := by
  unfold escapedChar
  refine .seq (numericEscape_tracks hc hpos count) ?_
  rintro n _ c' - ⟨hc', rfl⟩
  refine .get_bind ?_
  dsimp only
  have hsingle : Tracks m Cursor.Solid c'
      (if (0xD800 ≤ n && n < 0xE000) = true then pure [Char.ofNat 0xFFFD] else pure [Char.ofNat n])
      (if (0xD800 ≤ n && n < 0xE000) = true then pure [Char.ofNat 0xFFFD]
        else pure [Char.ofNat n]) :=
    .ite Iff.rfl (fun _ => .pure ⟨hc', rfl⟩ _) fun _ => .pure ⟨hc', rfl⟩ _
  refine .ite ?_ (fun hpair => ?_) fun _ => hsingle
  · rw [Cursor.apply_peek_within (f := (· == '\\')) (blind_of_map_eq rfl),
      Cursor.apply_peekAt_within (f := (· == 'u')) (blind_of_map_eq rfl)]
  have htwo : 1 < c'.rest.length :=
    Cursor.lt_length_of_peekAt (· == 'u') (blind_of_map_eq rfl) rfl
      (Bool.and_eq_true_iff.mp hpair).2
  rw [isLowHalf_within htwo]
  refine .ite Iff.rfl (fun hlow => ?_) fun _ => hsingle
  rw [← isLowHalf_within (m := m) htwo] at hlow
  have hhex : (((c'.within m).rest.drop 2).take 4).all isHex = true := by
    simp only [isLowHalf, Bool.and_eq_true] at hlow
    exact hlow.1.1
  obtain ⟨hsame, hlength⟩ := digits_within htwo (length_of_isLowHalf hlow) hhex
  rw [hsame]
  exact .skip_bind hc' hlength (.pure ⟨hc'.advance 6, rfl⟩ _)

/-- An escape is read the same unless the backslash is the last character of the text. -/
theorem escape_tracks {n₁ n₂ : Nat} (hc : c.Solid) (htwo : 1 < c.rest.length)
    (h₁ : c.rest.length ≤ n₁) (h₂ : c.rest.length ≤ n₂) :
    Tracks m Cursor.Solid c (escape n₁) (escape n₂) := by
  have hone : (c.advance 1).rest.length = c.rest.length - 1 := by
    rw [Cursor.rest_advance, List.length_drop]
  unfold escape
  refine .peekAt_bind ?_
  rw [Cursor.peekAt_within htwo]
  split
  · exact .skip_bind hc htwo (.pure ⟨hc.advance 2, rfl⟩ _)
  · exact .skip_bind hc (Nat.le_of_lt htwo) (escapedChar_tracks (hc.advance 1) (by omega) _)
  · refine .ite Iff.rfl (fun hbreak => .skip_bind hc (Nat.le_of_lt htwo) ?_) fun _ => .fail
    refine .takeBreak_bind (hc.inside_advance htwo) fun hin => ?_
    have hle := (c.advance 1).leads_takeBreak.length_le
    exact (quotedBreaks_tracks hin (by omega) (by omega)).mono (fun _ h => h)
      fun _ _ h => ⟨h.1.solid, h.2⟩

theorem leads_of_escapedChar {count : Nat} {s : Text} {c' : Cursor}
    (h : (escapedChar count).run c = .ok (s, c')) : c.Leads c' := by
  have hskip : Keeps c.Leads (fun _ => True) (skip (count + 1)) := (skip_stays _).weaken
  have hskip' : Keeps c.Leads (fun _ => True) (skip 6) := (skip_stays _).weaken
  have hfail : Keeps c.Leads (fun _ => True) (fail : Lexer Unit) := fail_stays.weaken
  have hnumber : Keeps c.Leads (fun _ => True) (numericEscape count) := by
    unfold numericEscape
    infer_instance
  have hchar : Keeps c.Leads (fun _ => True) (escapedChar count) := by
    unfold escapedChar
    infer_instance
  exact (hchar.gives c (.refl c)).ok h

theorem leads_of_escape {n : Nat} {s : Text} {c' : Cursor} (h : (escape n).run c = .ok (s, c')) :
    (c.advance 1).Leads c' := by
  rw [escape, run_peekAt_bind] at h
  split at h
  · obtain ⟨rfl, rfl⟩ := h
    exact (c.advance 1).leads_advance 1
  · exact leads_of_escapedChar h
  · split at h
    · exact leads_of_run (do let _ ← takeBreak; quotedBreaks n) h
    · cases h

theorem quotedText_needsText (double : Bool) (n : Nat) : NeedsText (quotedText double n) := by
  induction n with
  | zero => exact fun _ _ _ h => nomatch h
  | succ n ih =>
    intro t ht r hrun
    have hne (ch : Char) (hch : ch ≠ endMark) (hgap : isGap ch = false) : (t.peek == ch) = false :=
      beq_false_of_ne (ht.peek_ne hch hgap)
    rw [quotedText, run_takeWhile_bind, ht.takeWhile (eq_false_of_isGap (by decide)), run_peek_bind,
      hne '\'' (by decide) (by decide), hne '"' (by decide) (by decide),
      hne '\\' (by decide) (by decide)] at hrun
    simp only [List.isEmpty_nil, Bool.not_true, Bool.and_false, Bool.or_self, Bool.false_eq_true,
      ↓reduceIte] at hrun
    exact needsText_bind (fun _ => ih.bind _) t ht r hrun

theorem length_lt_of_quotedBlanks {n : Nat} {s : Text} {c' : Cursor}
    (hgap : isGapOrEnd c.peek = true)
    (h : (quotedBlanks n).run c = .ok (s, c')) : c'.rest.length < c.rest.length := by
  have hle := (c.leads_skipWhile fun x => x == ' ' || x == '\t').length_le
  unfold quotedBlanks at h
  rw [run_takeWhile_bind, run_peek_bind] at h
  split at h
  · exact nomatch h
  split at h
  · rename_i hbreak
    have hlt := Cursor.length_takeBreak_lt hbreak
    obtain ⟨line, c₁, ⟨rfl, rfl⟩, h⟩ := exists_of_run_bind h
    obtain ⟨more, c₂, hmore, ⟨rfl, rfl⟩⟩ := exists_of_run_bind h
    exact Nat.lt_of_le_of_lt (leads_of_run _ hmore).length_le (Nat.lt_of_lt_of_le hlt hle)
  · rename_i hend hbreak
    obtain ⟨rfl, rfl⟩ := h
    refine Cursor.length_skipWhile_lt rfl (Bool.of_not_eq_false fun hnone => ?_)
    rw [Cursor.takeWhile_of_peek hnone] at hend hbreak
    simp_all [isGapOrEnd, isSpaceOrEnd, isBreakOrEnd]

/-- Every turn of the reader moves past a character, and its last one past the closing quote. -/
theorem quotedText_tracks (double : Bool) {n₁ n₂ : Nat} (hc : c.Solid) (h₁ : c.rest.length < n₁)
    (h₂ : c.rest.length < n₂) :
    Tracks m Cursor.Solid c (quotedText double n₁) (quotedText double n₂) := by
  induction n₂ generalizing c n₁ with
  | zero => exact absurd h₂ (Nat.not_lt_zero _)
  | succ n₂ ih =>
    obtain hin | hblank := hc.inside_or_blank m
    swap
    · exact .of_needsText (quotedText_needsText double n₁) hblank
    obtain ⟨n₁, rfl⟩ := Nat.exists_eq_add_one_of_ne_zero (n := n₁) (by omega)
    have hmore (s : Text) {c' : Cursor} (hc' : c'.Solid) (hlt : c'.rest.length < c.rest.length) :
        Tracks m Cursor.Solid c' (do return s ++ (← quotedText double n₁))
          (do return s ++ (← quotedText double n₂)) := by
      refine .seq (ih hc' (by omega) (by omega)) ?_
      rintro more _ c'' - ⟨hc'', rfl⟩
      exact .pure ⟨hc'', rfl⟩ _
    have hlength (n : Nat) : (c.advance n).rest.length = c.rest.length - n := by
      rw [Cursor.rest_advance, List.length_drop]
    rw [quotedText, quotedText]
    refine .takeWhile_bind hc (fun _ => m.takeWhile_behind (eq_false_of_isGap (by decide)))
      (.peek_bind ?_)
    by_cases hplain : isQuotedChar c.peek = true
    · have hlt := Cursor.length_skipWhile_lt rfl hplain
      have hrun : (!(c.takeWhile isQuotedChar).1.isEmpty) = true := by
        rw [Cursor.isEmpty_takeWhile rfl hplain]
        rfl
      rw [if_pos hrun, if_pos hrun]
      exact hmore _ (hc.advance _) hlt
    have hnone := Cursor.takeWhile_of_peek (Bool.eq_false_iff.mpr hplain)
    rw [Cursor.skipWhile, hnone, hin.shows.peek_within]
    dsimp only
    refine .ite Iff.rfl (fun hsome => absurd hsome (by decide)) fun _ => ?_
    have hpos (ch : Char) (hch : ch ≠ endMark) (h : (c.peek == ch) = true) : 0 < c.rest.length :=
      Cursor.length_pos_of_peek (beq_iff_eq.mp h) hch
    refine .ite Iff.rfl (fun hquote => ?_) fun hsingle =>
      .ite Iff.rfl (fun hquote => ?_) fun hdouble =>
      .ite Iff.rfl (fun hquote => ?_) fun hother => .ite Iff.rfl (fun hback => ?_) fun hback => ?_
    · have hone := hpos '\'' (by decide) (Bool.and_eq_true_iff.mp hquote).2
      refine .peekAt_bind (.ite ?_ (fun hpair => ?_) fun _ => ?_)
      · rw [Cursor.apply_peekAt_within (f := (· == '\'')) (blind_of_map_eq rfl)]
      · have htwo := Cursor.lt_length_of_peekAt (· == '\'') (blind_of_map_eq rfl) rfl hpair
        exact .skip_bind hc htwo (hmore ['\''] (hc.advance 2) (by rw [hlength]; omega))
      · exact .skip_bind hc hone (.pure ⟨hc.advance 1, rfl⟩ _)
    · have hone := hpos '"' (by decide) (Bool.and_eq_true_iff.mp hquote).2
      exact .skip_bind hc hone (.pure ⟨hc.advance 1, rfl⟩ _)
    · have hone : 0 < c.rest.length := by
        simp only [Bool.or_eq_true, Bool.and_eq_true] at hquote
        obtain ⟨-, hquote | hquote⟩ | ⟨-, hquote⟩ := hquote
        · exact hpos '"' (by decide) hquote
        · exact hpos '\\' (by decide) hquote
        · exact hpos '\'' (by decide) hquote
      exact .skip_bind hc hone (hmore [c.peek] (hc.advance 1) (by rw [hlength]; omega))
    · have hone := hpos '\\' (by decide) (Bool.and_eq_true_iff.mp hback).2
      by_cases htwo : 1 < c.rest.length
      · refine .seq (escape_tracks hc htwo (by omega) (by omega)) ?_
        rintro s _ c' hrun ⟨hc', rfl⟩
        have hle := (leads_of_escape hrun).length_le
        exact hmore s hc' (by rw [hlength] at hle; omega)
      · -- the backslash is the last character, and no quote closes the scalar
        have hblank := Cursor.blank_within m (c := c.advance 1)
          (List.eq_nil_of_length_eq_zero (by rw [hlength]; omega))
        intro b t hrun _
        obtain ⟨s, t', hescape, hrun⟩ := exists_of_run_bind hrun
        have hleads := leads_of_escape hescape
        rw [Cursor.advance_within hc hone] at hleads
        exact absurd hrun ((quotedText_needsText double n₁).bind _ t' (hblank.of_leads hleads) _)
    · have hgap : isGapOrEnd c.peek = true := by
        cases double <;> simp_all [isQuotedChar]
      refine .seq (quotedBlanks_tracks hin (by omega) (by omega)) ?_
      rintro s _ c' hrun ⟨hc', rfl⟩
      exact hmore s hc'.solid (length_lt_of_quotedBlanks hgap hrun)

theorem quotedScalar_tracks (double : Bool) (hc : c.Solid) (hpos : 0 < c.rest.length) :
    Tracks m Cursor.Solid c (quotedScalar double) (quotedScalar double) := by
  unfold quotedScalar
  refine .skip_bind hc hpos (.get_bind (.seq (quotedText_tracks double (hc.advance 1) ?_ ?_) ?_))
  · rw [Cursor.rest_within, List.length_append]
    omega
  · omega
  · rintro s _ c' - ⟨hc', rfl⟩
    exact .pure ⟨hc', rfl⟩ _

end Lexer

end Yaml

end Scaffold
