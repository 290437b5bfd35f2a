import Scaffold.Proofs.Yaml.Margin.Mark

/-!
# Plain scalars within margins
-/

namespace Scaffold

namespace Yaml

namespace Lexer

variable {m : Margin} {c : Cursor}

theorem stopsPlain_within (m : Margin) (c : Cursor) (flow : Bool) :
    stopsPlain flow (c.within m) = stopsPlain flow c := by
  simp only [stopsPlain]
  rw [Cursor.apply_peek_within Cursor.blind_isGapOrEnd,
    Cursor.apply_peekAt_within Cursor.blind_isGapOrEnd,
    Cursor.apply_peek_within (f := (· == ':')) (blind_of_map_eq rfl),
    Cursor.apply_peek_within (f := [',', '?', '[', ']', '\x7b', '\x7d'].contains)
      (blind_of_map_eq rfl),
    Cursor.apply_peekAt_within (f := [',', '[', ']', '\x7b', '\x7d'].contains)
      (blind_of_map_eq rfl)]

theorem plainRun_tracks {flow : Bool} {n₁ n₂ : Nat} (hc : c.Solid) (h₁ : c.rest.length ≤ n₁)
    (h₂ : c.rest.length ≤ n₂) :
    Tracks m Cursor.Solid c (plainRun flow n₁) (plainRun flow n₂) := by
  have hstops {c : Cursor} {n₁ n₂ : Nat} (hc : c.Solid) (h : stopsPlain flow c = true) :
      Tracks m Cursor.Solid c (plainRun flow n₁) (plainRun flow n₂) :=
    .of_run (run_plainRun_of_stops ((stopsPlain_within m c flow).trans h) _)
      (run_plainRun_of_stops h _) ⟨hc, rfl⟩
  induction n₂ generalizing c n₁ with
  | zero =>
    refine hstops hc (Decidable.by_contra fun h => ?_)
    exact absurd (length_pos_of_not_stops h) (Nat.not_lt.mpr h₂)
  | succ n₂ ih =>
    by_cases hstop : stopsPlain flow c = true
    · exact hstops hc hstop
    have hpos := length_pos_of_not_stops hstop
    have hlength : (c.advance 1).rest.length = c.rest.length - 1 := by
      rw [Cursor.rest_advance, List.length_drop]
    obtain ⟨n₁, rfl⟩ := Nat.exists_eq_add_one_of_ne_zero (n := n₁) (by omega)
    rw [plainRun, plainRun]
    refine .get_bind ?_
    rw [stopsPlain_within, Cursor.peek_eq_peekAt, Cursor.peekAt_within hpos]
    refine .ite Iff.rfl (fun _ => .pure ⟨hc, rfl⟩ _) fun _ => .skip_bind hc hpos ?_
    refine .seq (ih (hc.advance 1) (by omega) (by omega)) ?_
    rintro run _ c' - ⟨hc', rfl⟩
    exact .pure ⟨hc', rfl⟩ _

theorem plainBreaks_tracks {n₁ n₂ : Nat} (hc : c.Inside m) (h₁ : c.rest.length < n₁)
    (h₂ : c.rest.length < n₂) : Tracks m (Cursor.Inside m) c (plainBreaks n₁) (plainBreaks n₂) := by
  induction n₂ generalizing c n₁ with
  | zero => exact absurd h₂ (Nat.not_lt_zero _)
  | succ n₂ ih =>
    obtain ⟨n₁, rfl⟩ := Nat.exists_eq_add_one_of_ne_zero (n := n₁) (by omega)
    rw [plainBreaks, plainBreaks]
    refine .peek_bind ?_
    rw [hc.shows.peek_within]
    refine .ite Iff.rfl (fun hspace => ?_) fun _ => .ite Iff.rfl (fun hbreak => ?_) fun _ =>
      .pure ⟨hc, rfl⟩ _
    · have htwo := hc.solid.lt_length (n := 0)
        (by rw [← Cursor.peek_eq_peekAt, beq_iff_eq.mp hspace]; rfl)
      have hlength : (c.advance 1).rest.length = c.rest.length - 1 := by
        rw [Cursor.rest_advance, List.length_drop]
      exact .skip_bind hc.solid (Nat.le_of_lt htwo)
        (ih (hc.solid.inside_advance htwo) (by omega) (by omega))
    · have hlt := Cursor.length_takeBreak_lt hbreak
      refine .takeBreak_bind hc fun hc => .get_bind ?_
      rw [Cursor.atAnyMarker_within]
      refine .ite Iff.rfl (fun _ => .pure ⟨hc, rfl⟩ _) fun _ =>
        .seq (ih hc (by omega) (by omega)) ?_
      rintro more _ c' - ⟨hc', rfl⟩
      exact .pure ⟨hc', rfl⟩ _

theorem plainGap_tracks {n₁ n₂ : Nat} (hc : c.Inside m) (h₁ : c.rest.length ≤ n₁)
    (h₂ : c.rest.length ≤ n₂) : Tracks m (Cursor.Inside m) c (plainGap n₁) (plainGap n₂) := by
  unfold plainGap
  have hle := (c.leads_skipWhile (· == ' ')).length_le
  refine .takeGaps_bind hc (by simp [isGap]) fun hc => .peek_bind ?_
  rw [hc.shows.peek_within]
  refine .ite Iff.rfl (fun hbreak => ?_) fun _ => .pure ⟨hc, rfl⟩ _
  have hlt := Cursor.length_takeBreak_lt hbreak
  refine .takeBreak_bind hc fun hc => .get_bind ?_
  rw [Cursor.atAnyMarker_within]
  refine .ite Iff.rfl (fun _ => .pure ⟨hc, rfl⟩ _) fun _ =>
    .seq (plainBreaks_tracks hc (by omega) (by omega)) ?_
  rintro more _ c' - ⟨hc', rfl⟩
  cases more with
  | none => exact .pure ⟨hc', rfl⟩ _
  | some more => exact .pure ⟨hc', rfl⟩ _

/-- Among blanks a plain scalar is over. -/
theorem run_plainText_of_blank {flow : Bool} {indent : Nat} {t : Cursor} (ht : t.Blank) (n : Nat)
    (gap : Text) (broken : Bool) :
    (plainText flow indent n gap broken).run t = .ok (([], broken), t) := by
  have hstop : stopsPlain flow t = true :=
    stopsPlain_of_isGapOrEnd ((ht.apply_peek Cursor.blind_isGapOrEnd).trans rfl)
  cases n with
  | zero => rfl
  | succ n =>
    rw [plainText, run_peek_bind, ht.apply_peek (f := (· == '#')) (blind_of_map_eq rfl),
      if_neg (by decide), run_get_bind,
      run_bind_of_ok (run_plainRun_of_stops hstop _)]
    rfl

theorem run_plainGap_of_end (hend : c.rest = []) (n : Nat) :
    (plainGap n).run c = .ok (([], false), c) := by
  have hpeek : c.peek = endMark := by rw [Cursor.peek, hend, List.headD_nil]
  have hnone : c.takeWhile (· == ' ') = ([], c) := Cursor.takeWhile_of_peek (by rw [hpeek]; rfl)
  rw [plainGap, run_takeWhile_bind, run_peek_bind, hnone]
  dsimp only
  rw [hpeek, if_neg (by decide)]
  rfl

/-- What a plain scalar gives with the blanks around is its text without them. Only whether a line
end is behind it can be another matter, when the scalar ends the text. -/
def PlainMeets {α : Type} (m : Margin) (r r' : (α × Bool) × Cursor) : Prop :=
  r.1.1 = r'.1.1 ∧ m.Meets r.2 r'.2 ∧ (r'.2.rest ≠ [] → r.1.2 = r'.1.2)

theorem PlainMeets.of_within {α : Type} (a : α × Bool) (hc : c.Solid) :
    PlainMeets m (a, c.within m) (a, c) := ⟨rfl, .of_within m hc, fun _ => rfl⟩

theorem plainText_meets {flow : Bool} {indent n₁ n₂ : Nat} (gap : Text) (broken : Bool)
    (hc : c.Solid)
    (h₁ : c.rest.length < n₁) (h₂ : c.rest.length < n₂) {r : (Text × Bool) × Cursor}
    (hrun : (plainText flow indent n₁ gap broken).run (c.within m) = .ok r) :
    ∃ r', (plainText flow indent n₂ gap broken).run c = .ok r' ∧ PlainMeets m r r' := by
  induction n₂ generalizing c n₁ gap broken r with
  | zero => exact absurd h₂ (Nat.not_lt_zero _)
  | succ n₂ ih =>
  obtain ⟨a, t⟩ := r
  by_cases hend : c.rest = []
  · rw [run_plainText_of_blank (Cursor.blank_within m hend)] at hrun
    obtain ⟨rfl, rfl⟩ := hrun
    have hblank : c.Blank := fun t ht => absurd (hend ▸ ht) List.not_mem_nil
    exact ⟨_, run_plainText_of_blank hblank _ _ _, .of_within _ hc⟩
  have hin : c.Inside m := ⟨hc, .inr hend⟩
  obtain ⟨n₁, rfl⟩ := Nat.exists_eq_add_one_of_ne_zero (n := n₁) (by omega)
  rw [plainText, run_peek_bind, hin.shows.peek_within] at hrun
  rw [plainText, run_peek_bind]
  by_cases hhash : (c.peek == '#') = true
  · rw [if_pos hhash] at hrun ⊢
    obtain ⟨rfl, rfl⟩ := hrun
    exact ⟨_, rfl, .of_within _ hc⟩
  rw [if_neg hhash, run_get_bind] at hrun ⊢
  obtain ⟨run, t₁, hrun₁, hrun⟩ := exists_of_run_bind hrun
  obtain ⟨c₁, hrun₁', hc₁, rfl⟩ := plainRun_tracks hc
    (by rw [Cursor.rest_within, List.length_append]; omega) (Nat.le_refl _) run t₁ hrun₁ id
  rw [run_bind_of_ok hrun₁']
  by_cases hempty : run.isEmpty = true
  · rw [if_pos hempty] at hrun ⊢
    obtain ⟨rfl, rfl⟩ := hrun
    exact ⟨_, rfl, .of_within _ hc₁⟩
  have hlt := length_lt_of_plainRun hrun₁' hempty
  rw [if_neg hempty] at hrun ⊢
  obtain ⟨⟨next, crossed⟩, t₂, hgap, hrun⟩ := exists_of_run_bind hrun
  by_cases hend₁ : c₁.rest = []
  · -- the scalar ends the text, and what is read of the blanks does not belong to it
    have hleads := leads_of_run _ hgap
    have hblank := (Cursor.blank_within m hend₁).of_leads hleads
    have hr : a.1 = gap ++ run ∧ t = t₂ := by
      rw [run_get_bind] at hrun
      split at hrun
      · obtain ⟨rfl, rfl⟩ := hrun
        exact ⟨rfl, rfl⟩
      · rw [run_bind_of_ok (run_plainText_of_blank hblank _ _ _)] at hrun
        obtain ⟨rfl, rfl⟩ := hrun
        exact ⟨List.append_nil _, rfl⟩
    refine ⟨((gap ++ run, false), c₁), by rw [run_bind_of_ok (run_plainGap_of_end hend₁ _)]; rfl,
      hr.1, ?_, fun hne => absurd hend₁ hne⟩
    exact ⟨hc₁, by rw [hr.2]; exact hleads, fun hne => absurd hend₁ hne⟩
  · obtain ⟨c₂, hgap', hc₂, rfl⟩ := plainGap_tracks ⟨hc₁, .inr hend₁⟩ (by omega)
      (show c₁.rest.length ≤ n₂ by omega) _ t₂ hgap id
    have hle := (leads_of_run _ hgap').length_le
    rw [run_get_bind, hc₂.shows.peek_within, Cursor.column_within] at hrun
    rw [run_bind_of_ok hgap', run_get_bind]
    by_cases hover : (next.isEmpty || c₂.peek == '#' || !flow && decide (c₂.column < indent)) = true
    · rw [if_pos hover] at hrun ⊢
      obtain ⟨rfl, rfl⟩ := hrun
      exact ⟨_, rfl, .of_within _ hc₂.solid⟩
    · rw [if_neg hover] at hrun ⊢
      obtain ⟨⟨more, ended⟩, t₃, hmore, hrun⟩ := exists_of_run_bind hrun
      obtain ⟨⟨⟨more', ended'⟩, c₃⟩, hmore', rfl, hmeets, hsame⟩ :=
        ih next crossed hc₂.solid (by omega) (by omega) hmore
      obtain ⟨rfl, rfl⟩ := hrun
      exact ⟨_, run_bind_of_ok hmore', rfl, hmeets, hsame⟩

theorem plainScalar_meets {flow : Bool} {indent : Nat} (hc : c.Solid) {r : (Token × Bool) × Cursor}
    (hrun : (plainScalar flow indent).run (c.within m) = .ok r) :
    ∃ r', (plainScalar flow indent).run c = .ok r' ∧ PlainMeets m r r' := by
  obtain ⟨a, t⟩ := r
  unfold plainScalar at hrun ⊢
  rw [run_get_bind] at hrun ⊢
  obtain ⟨⟨s, broken⟩, t', hs, ⟨rfl, rfl⟩⟩ := exists_of_run_bind hrun
  obtain ⟨⟨⟨s', broken'⟩, c'⟩, hs', rfl, hmeets, hsame⟩ := plainText_meets [] false hc
    (by rw [Cursor.rest_within, List.length_append]; omega) (Nat.lt_succ_self _) hs
  exact ⟨_, run_bind_of_ok hs', rfl, hmeets, hsame⟩

end Lexer

end Yaml

end Scaffold
