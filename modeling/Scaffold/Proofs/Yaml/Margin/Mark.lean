import Scaffold.Proofs.Yaml.Margin.Cursor

/-!
# Directives, anchors and tags within margins
-/

namespace Scaffold

namespace Yaml

namespace Lexer

variable {m : Margin} {c : Cursor}

theorem versionNumber_tracks (hc : c.Solid) :
    Tracks m Cursor.Solid c versionNumber versionNumber := by
  unfold versionNumber
  refine .takeWhile_bind hc (fun _ => m.takeWhile_behind (eq_false_of_isGap (by decide))) ?_
  exact .guard id (fun _ => .fail_bind) fun _ => .pure ⟨hc.advance _, rfl⟩ _

/-! ### Tags -/

theorem blind_isTagChar : Blind isTagChar := blind_of_map_eq rfl

theorem blind_isHex : Blind isHex := blind_of_map_eq rfl

theorem run_escapedBytes_of_ne {n : Nat} (h : c.peek ≠ '%') :
    (escapedBytes n).run c = .ok ([], c) := by
  cases n with
  | zero => rfl
  | succ n =>
    rw [escapedBytes, run_peek_bind, if_pos h]
    rfl

theorem escapedBytes_tracks_of_ne {n₁ n₂ : Nat} (hc : c.Solid) (h : c.peek ≠ '%') :
    Tracks m Cursor.Solid c (escapedBytes n₁) (escapedBytes n₂) :=
  have h' : (c.within m).peek ≠ '%' := (Cursor.peek_within_eq_iff (by decide) (by decide)).not.mpr h
  .of_run (run_escapedBytes_of_ne h') (run_escapedBytes_of_ne h) ⟨hc, rfl⟩

theorem escapedBytes_tracks {n₁ n₂ : Nat} (hc : c.Solid) (h₁ : c.rest.length ≤ n₁)
    (h₂ : c.rest.length ≤ n₂) : Tracks m Cursor.Solid c (escapedBytes n₁) (escapedBytes n₂) := by
  induction n₂ generalizing c n₁ with
  | zero =>
    exact escapedBytes_tracks_of_ne hc fun hpercent =>
      absurd (Cursor.length_pos_of_peek hpercent (by decide)) (Nat.not_lt.mpr h₂)
  | succ n₂ ih =>
    by_cases hpercent : c.peek = '%'
    · have hpos := Cursor.length_pos_of_peek hpercent (by decide)
      obtain ⟨n₁, rfl⟩ := Nat.exists_eq_add_one_of_ne_zero (n := n₁) (by omega)
      rw [escapedBytes, escapedBytes]
      refine .peek_bind ?_
      rw [(Cursor.peek_within_eq_iff (by decide) (by decide)).mpr hpercent, hpercent]
      refine .peekAt_bind (.peekAt_bind ?_)
      refine .guard ?_ (fun _ => .fail_bind) fun hhex => ?_
      · rw [Cursor.apply_peekAt_within blind_isHex, Cursor.apply_peekAt_within blind_isHex]
        exact id
      -- both digits are characters of the text
      have htwo : isHex ((c.within m).peekAt 2) = true := by simp_all
      have hthree := Cursor.lt_length_of_peekAt isHex blind_isHex rfl htwo
      rw [Cursor.peekAt_within hthree, Cursor.peekAt_within (Nat.lt_of_succ_lt hthree)]
      have hleft : (c.advance 3).rest.length = c.rest.length - 3 := by
        rw [Cursor.rest_advance, List.length_drop]
      refine .skip_bind hc hthree (.seq (ih (hc.advance 3) (by omega) (by omega)) ?_)
      rintro bytes _ c' - ⟨hc', rfl⟩
      exact .pure ⟨hc', rfl⟩ _
    · exact escapedBytes_tracks_of_ne hc hpercent

theorem length_lt_of_escapedBytes {n : Nat} {bytes : List UInt8} {c' : Cursor} (h : c.peek = '%')
    (hrun : (escapedBytes (n + 1)).run c = .ok (bytes, c')) : c'.rest.length < c.rest.length := by
  have hpos := Cursor.length_pos_of_peek h (by decide)
  rw [escapedBytes, run_peek_bind, if_neg (not_not.mpr h), run_peekAt_bind, run_peekAt_bind] at hrun
  dsimp only at hrun
  split at hrun
  · cases hrun
  have hleads : (c.advance 3).Leads c' :=
    leads_of_run (do return (hexValue [c.peekAt 1, c.peekAt 2]).toUInt8 :: (← escapedBytes n)) hrun
  have hlength := hleads.length_le
  rw [Cursor.rest_advance, List.length_drop] at hlength
  omega

theorem tagChars_tracks {n₁ n₂ : Nat} (hc : c.Solid) (h₁ : c.rest.length < n₁)
    (h₂ : c.rest.length < n₂) : Tracks m Cursor.Solid c (tagChars n₁) (tagChars n₂) := by
  induction n₂ generalizing c n₁ with
  | zero => exact absurd h₂ (Nat.not_lt_zero _)
  | succ n₂ ih =>
    obtain ⟨n₁, rfl⟩ := Nat.exists_eq_add_one_of_ne_zero (n := n₁) (by omega)
    rw [tagChars, tagChars]
    refine .peek_bind (.ite ?_ (fun hpercent => ?_) fun _ => .ite ?_ (fun hchar => ?_) fun _ => ?_)
    · rw [Cursor.apply_peek_within (f := (· == '%')) (blind_of_map_eq rfl)]
    · have hpeek : c.peek = '%' :=
        (Cursor.peek_within_eq_iff (by decide) (by decide)).mp (beq_iff_eq.mp hpercent)
      have hpos := Cursor.length_pos_of_peek hpeek (by decide)
      refine .get_bind (.seq (escapedBytes_tracks hc ?_ (Nat.le_refl _)) ?_)
      · rw [Cursor.rest_within, List.length_append]
        exact Nat.le_add_right _ _
      rintro bytes _ c' hrun ⟨hc', rfl⟩
      obtain ⟨k, hk⟩ := Nat.exists_eq_add_one_of_ne_zero (Nat.ne_of_gt hpos)
      rw [hk] at hrun
      have hlt := length_lt_of_escapedBytes hpeek hrun
      cases Text.decode? bytes with
      | none => exact .fail
      | some s =>
        refine .seq (ih hc' (by omega) (by omega)) ?_
        rintro more _ c'' - ⟨hc'', rfl⟩
        exact .pure ⟨hc'', rfl⟩ _
    · rw [Cursor.apply_peek_within blind_isTagChar]
    · rw [Cursor.apply_peek_within blind_isTagChar] at hchar
      have hlt := Cursor.length_skipWhile_lt (by decide) hchar
      refine .takeWhile_bind hc (fun _ => m.takeWhile_behind (eq_false_of_isGap (by decide))) ?_
      refine .seq (ih (hc.advance _) (by omega) (by omega)) ?_
      rintro more _ c' - ⟨hc', rfl⟩
      exact .pure ⟨hc', rfl⟩ _
    · exact .pure ⟨hc, rfl⟩ _

theorem tagSuffix_tracks (hc : c.Solid) : Tracks m Cursor.Solid c tagSuffix tagSuffix := by
  unfold tagSuffix
  refine .get_bind (.get_bind (.seq (tagChars_tracks hc ?_ (Nat.lt_succ_self _)) ?_))
  · rw [Cursor.rest_within, List.length_append]
    omega
  rintro suffix _ c' - ⟨hc', rfl⟩
  refine .get_bind (.guard (fun h => congrArg (· + m.index) h) (fun _ => .fail_bind) fun _ => ?_)
  exact .pure ⟨hc', rfl⟩ _

/-- A handle is read the same unless the exclamation mark is the last character of the text: then a
space behind the text would be taken for the end of the handle. -/
theorem tagHandle_tracks (hc : c.Solid) (hshows : (c.advance 1).Shows m) :
    Tracks m Cursor.Solid c tagHandle tagHandle := by
  unfold tagHandle
  refine .expect_bind (by decide) (by decide) fun hpos => .skip_bind hc hpos (.peek_bind ?_)
  rw [hshows.peek_within]
  refine .ite Iff.rfl (fun _ => .pure ⟨hc.advance 1, rfl⟩ _) fun _ => ?_
  have hname := (hc.advance 1).advance ((c.advance 1).rest.takeWhile isNameChar).length
  refine .takeWhile_bind (hc.advance 1)
    (fun _ => m.takeWhile_behind (eq_false_of_isGap (by decide))) ?_
  refine .expect_bind (by decide) (by decide) fun hpos => .skip_bind hname hpos ?_
  exact .pure ⟨hname.advance 1, rfl⟩ _

theorem anchorName_tracks (hc : c.Solid) (hpos : 0 < c.rest.length) :
    Tracks m Cursor.Solid c anchorName anchorName := by
  unfold anchorName
  refine .skip_bind hc hpos ?_
  refine .takeWhile_bind (hc.advance 1)
    (fun _ => m.takeWhile_behind (eq_false_of_isGap (by decide))) ?_
  refine .peek_bind (.guard ?_ (fun _ => .fail_bind) fun _ => ?_)
  · rw [Cursor.apply_peek_within
      (f := fun ch => isGapOrEnd ch || "?:,]\x7d%@".toList.contains ch || ch.toNat == 96)
      (blind_of_map_eq rfl)]
    exact id
  · exact .pure ⟨(hc.advance 1).advance _, rfl⟩ _

/-- A mark is not found among the blanks behind the text. -/
theorem contains_takeWhile_within {test : Char → Bool} {ch : Char} (hpos : 0 < c.rest.length)
    (hgap : isGap ch = false) :
    (((c.within m).rest.drop 1).takeWhile test).contains ch =
      ((c.rest.drop 1).takeWhile test).contains ch := by
  rw [Cursor.rest_within, List.drop_append_of_le_length hpos, List.takeWhile_append]
  split
  · rename_i hall
    rw [Bool.eq_iff_iff, List.contains_iff_mem, List.contains_iff_mem, List.mem_append,
      (List.takeWhile_prefix _).eq_of_length hall, or_iff_left]
    intro hmem
    have hblank := m.blank ch (List.takeWhile_subset _ hmem)
    exact absurd (hblank.symm.trans hgap) (by decide)
  · rfl

theorem tag_tracks (hc : c.Solid) (hpos : 0 < c.rest.length) :
    Tracks m Cursor.Solid c tag tag := by
  unfold tag
  refine .peekAt_bind ?_
  simp only [pure_bind]
  refine .ite ?_ (fun hangle => ?_) fun _ => .ite ?_ (fun hgap => ?_) fun _ => .get_bind ?_
  · rw [Cursor.apply_peekAt_within (f := (· == '<')) (blind_of_map_eq rfl)]
  · have htwo : 1 < c.rest.length :=
      Cursor.lt_length_of_peekAt (· == '<') (blind_of_map_eq rfl) rfl hangle
    refine .skip_bind hc htwo (.seq (tagSuffix_tracks (hc.advance 2)) ?_)
    rintro suffix _ c' - ⟨hc', rfl⟩
    refine .expect_bind (by decide) (by decide) fun hpos => .skip_bind hc' hpos ?_
    exact .spaceOrEnd_bind (.pure ⟨hc'.advance 1, rfl⟩ _)
  · rw [Cursor.apply_peekAt_within Cursor.blind_isGapOrEnd]
  · exact .skip_bind hc hpos (.spaceOrEnd_bind (.pure ⟨hc.advance 1, rfl⟩ _))
  · rw [contains_takeWhile_within hpos (by decide)]
    refine .ite Iff.rfl (fun hnamed => ?_) fun _ => .skip_bind hc hpos ?_
    · have hshows : (c.advance 1).Shows m := .inr fun hnil => by
        rw [Cursor.rest_advance] at hnil
        rw [hnil] at hnamed
        exact absurd hnamed (by decide)
      refine .seq (tagHandle_tracks hc hshows) ?_
      rintro handle _ c' - ⟨hc', rfl⟩
      refine .seq (tagSuffix_tracks hc') ?_
      rintro suffix _ c'' - ⟨hc'', rfl⟩
      exact .spaceOrEnd_bind (.pure ⟨hc'', rfl⟩ _)
    · refine .seq (tagSuffix_tracks (hc.advance 1)) ?_
      rintro suffix _ c' - ⟨hc', rfl⟩
      exact .spaceOrEnd_bind (.pure ⟨hc', rfl⟩ _)

/-! ### Lines -/

/-- The end of a line, or of the text. -/
theorem lineEnd_follows {t : Cursor} (h : m.Meets t c) :
    Follows (fun _ => False) m.Meets t c
      (do if isBreakOrEnd (← peek) then let _ ← takeBreak else fail)
      (do if isBreakOrEnd (← peek) then let _ ← takeBreak else fail) := by
  refine .peek_bind ?_
  by_cases hend : c.rest = []
  · have hpeek : c.peek = endMark := by rw [Cursor.peek, hend, List.headD_nil]
    rw [if_pos (show isBreakOrEnd c.peek = true by rw [hpeek]; rfl)]
    split
    · exact .takeBreak_bind_meets (k := fun _ => pure ()) h fun h' => .pure h' _
    · exact .fail
  · have hshows : c.Shows m := .inr hend
    rw [h.eq_within hend, hshows.peek_within, ← h.eq_within hend]
    refine .ite Iff.rfl (fun _ => ?_) fun _ => .fail
    exact .takeBreak_bind_meets (k := fun _ => pure ()) h fun h' => .pure h' _

/-- The rest of a line is the same behind the text and at its end. -/
theorem skipLineEnd_follows {t : Cursor} (h : m.Meets t c) :
    Follows (fun _ => False) m.Meets t c skipLineEnd skipLineEnd := by
  unfold skipLineEnd
  exact .modify_bind (lineEnd_follows h.skipRemark)

theorem versionNumber_needsText : NeedsText versionNumber := by
  rintro t ht r hrun
  unfold versionNumber at hrun
  rw [run_takeWhile_bind, ht.takeWhile (eq_false_of_isGap (by decide))] at hrun
  exact nomatch hrun

theorem run_tagChars_of_blank {t : Cursor} (ht : t.Blank) (n : Nat) :
    (tagChars n).run t = .ok ([], t) := by
  cases n with
  | zero => rfl
  | succ n =>
    rw [tagChars, run_peek_bind, if_neg, if_neg]
    · rfl
    · rw [ht.apply_peek blind_isTagChar]
      decide
    · rw [ht.apply_peek (f := (· == '%')) (blind_of_map_eq rfl)]
      decide

theorem tagSuffix_needsText : NeedsText tagSuffix := by
  intro t ht r hrun
  unfold tagSuffix at hrun
  rw [run_get_bind, run_get_bind, run_bind_of_ok (run_tagChars_of_blank ht _), run_get_bind,
    if_pos rfl] at hrun
  exact nomatch hrun

theorem tagHandle_needsText : NeedsText tagHandle := by
  intro t ht r hrun
  unfold tagHandle at hrun
  rw [run_peek_bind, if_pos (ht.peek_ne (by decide) (by decide))] at hrun
  exact nomatch hrun

theorem tagStart_needsText : NeedsText tagStart := by
  intro t ht r hrun
  unfold tagStart at hrun
  rw [run_peek_bind] at hrun
  split at hrun
  · exact nomatch hrun
  · exact needsText_bind (fun _ => tagSuffix_needsText.bind _) t ht r hrun

/-- Behind the text no number could be read. -/
theorem versionSetting_tracks (hc : c.Solid) :
    Tracks m Cursor.Solid c versionSetting versionSetting := by
  unfold versionSetting
  obtain hin | hblank := hc.inside_or_blank m
  · refine .skipGaps_bind hin (by simp [isGap]) fun hin => ?_
    refine .seq (versionNumber_tracks hin.solid) ?_
    rintro major _ c' - ⟨hc', rfl⟩
    refine .expect_bind (by decide) (by decide) fun hpos => .skip_bind hc' hpos ?_
    refine .seq (versionNumber_tracks (hc'.advance 1)) ?_
    rintro minor _ c'' - ⟨hc'', rfl⟩
    exact .spaceOrEnd_bind (.pure ⟨hc'', rfl⟩ _)
  · exact .of_needsText (needsText_bind fun _ => versionNumber_needsText.bind _) hblank

theorem tagStart_tracks (hc : c.Solid) : Tracks m Cursor.Solid c tagStart tagStart := by
  obtain hin | hblank := hc.inside_or_blank m
  · unfold tagStart
    refine .peek_bind ?_
    rw [hin.shows.peek_within]
    refine .guard id (fun _ => .fail_bind) fun _ => .skipGaps_bind hin (by simp [isGap])
      fun hin => ?_
    refine .seq (tagSuffix_tracks hin.solid) ?_
    rintro start _ c' - ⟨hc', rfl⟩
    exact .spaceOrEnd_bind (.pure ⟨hc', rfl⟩ _)
  · exact .of_needsText tagStart_needsText hblank

/-- Where the exclamation mark of a handle is the last character of the text, nothing is left that
the handle could stand for. -/
theorem tagSetting_tracks (hc : c.Solid) : Tracks m Cursor.Solid c tagSetting tagSetting := by
  unfold tagSetting
  obtain hin | hblank := hc.inside_or_blank m
  · refine .skipGaps_bind hin (by simp [isGap]) fun hin => ?_
    obtain hin' | hblank := (hin.solid.advance 1).inside_or_blank m
    · refine .seq (tagHandle_tracks hin.solid hin'.shows) ?_
      rintro handle _ c' - ⟨hc', rfl⟩
      refine .seq (tagStart_tracks hc') ?_
      rintro start _ c'' - ⟨hc'', rfl⟩
      exact .pure ⟨hc'', rfl⟩ _
    · intro b t hrun _
      obtain ⟨handle, t', hhandle, hstart⟩ := exists_of_run_bind hrun
      obtain ⟨hmark, hleads⟩ := peek_and_leads_of_tagHandle hhandle
      have hpos := Cursor.length_pos_of_peek
        ((Cursor.peek_within_eq_iff (by decide) (by decide)).mp hmark) (by decide)
      rw [Cursor.advance_within hin.solid hpos] at hleads
      exact absurd hstart (tagStart_needsText.bind _ t' (hblank.of_leads hleads) _)
  · exact .of_needsText (needsText_bind fun _ => tagHandle_needsText.bind _) hblank

theorem otherSetting_follows {t : Cursor} (h : m.Meets t c) :
    Follows (fun _ => False) m.Meets t c otherSetting otherSetting :=
  .skipWhile_bind_meets h fun h => .pure h _

/-- **A directive** may be the last line of the text: the blanks behind it belong to the line. -/
theorem setting_follows (hc : c.Solid) (hpos : 0 < c.rest.length) :
    Follows (fun _ => False) m.Meets (c.within m) c setting setting := by
  have hline {t c : Cursor} (h : m.Meets t c) (s : Setting) : Follows (fun _ => False) m.Meets t c
      (skipLineEnd >>= fun _ => pure (Token.setting s))
      (skipLineEnd >>= fun _ => pure (Token.setting s)) :=
    .seq (skipLineEnd_follows h) fun _ _ _ _ h => .pure h _
  have hname := (hc.advance 1).advance ((c.advance 1).rest.takeWhile isNameChar).length
  unfold setting
  refine .skip_bind hc hpos ?_
  refine .takeWhile_bind (hc.advance 1)
    (fun _ => m.takeWhile_behind (eq_false_of_isGap (by decide))) ?_
  refine .peek_bind (.guard ?_ (fun _ => .fail_bind) fun _ => ?_)
  · simp only [Bool.or_eq_true]
    exact Or.imp_right Cursor.not_isSpaceOrEnd_within
  dsimp only
  refine .ite Iff.rfl (fun _ => ?_) fun _ => .ite Iff.rfl (fun _ => ?_) fun _ => ?_
  · refine .seq (versionSetting_tracks hname) ?_
    rintro s _ c' - ⟨hc', rfl⟩
    exact hline (.of_within m hc') s
  · refine .seq (tagSetting_tracks hname) ?_
    rintro s _ c' - ⟨hc', rfl⟩
    exact hline (.of_within m hc') s
  · exact .seq (otherSetting_follows (.of_within m hname)) fun s _ _ _ h => hline h s

end Lexer

end Yaml

end Scaffold
