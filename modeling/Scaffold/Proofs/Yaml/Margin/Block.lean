import Scaffold.Proofs.Yaml.Margin.Mark

/-!
# Block scalars within margins
-/

namespace Scaffold

namespace Yaml

set_option synthInstance.maxSize 10000

namespace Lexer

variable {m : Margin} {c : Cursor}

theorem takeChomping_tracks (hc : c.Solid) :
    Tracks m Cursor.Solid c takeChomping takeChomping := by
  unfold takeChomping
  refine .peek_bind ?_
  rw [Cursor.apply_peek_within (f := chompingOf?) (blind_of_map_eq rfl)]
  cases hchomping : chompingOf? c.peek with
  | none => exact .pure ⟨hc, rfl⟩ _
  | some chomping =>
    have hpos : 0 < c.rest.length := Cursor.length_pos_of_peek rfl fun hend => by
      rw [hend] at hchomping
      exact nomatch hchomping
    exact .skip_bind hc hpos (.pure ⟨hc.advance 1, rfl⟩ _)

theorem takeIndentation_tracks (hc : c.Solid) :
    Tracks m Cursor.Solid c takeIndentation takeIndentation := by
  unfold takeIndentation
  refine .peek_bind (.ite ?_ (fun _ => .pure ⟨hc, rfl⟩ _) fun hdigit => ?_)
  · rw [Cursor.apply_peek_within (f := Char.isDigit) (blind_of_map_eq rfl)]
  have hdigit : (c.within m).peek.isDigit = true := by simpa using hdigit
  have hpos := Cursor.lt_length_of_peekAt Char.isDigit (n := 0) (blind_of_map_eq rfl) rfl hdigit
  rw [Cursor.peek_eq_peekAt, Cursor.peekAt_within hpos]
  exact .guard id (fun _ => .fail_bind) fun _ => .skip_bind hc hpos (.pure ⟨hc.advance 1, rfl⟩ _)

theorem blockHeader_tracks (hc : c.Solid) :
    Tracks m Cursor.Solid c blockHeader blockHeader := by
  unfold blockHeader
  refine .seq (takeChomping_tracks hc) ?_
  rintro early _ c₁ - ⟨hc₁, rfl⟩
  refine .seq (takeIndentation_tracks hc₁) ?_
  rintro indentation _ c₂ - ⟨hc₂, rfl⟩
  refine .ite Iff.rfl (fun _ => .seq (takeChomping_tracks hc₂) ?_) fun _ => ?_
  · rintro late _ c₃ - ⟨hc₃, rfl⟩
    exact .spaceOrEnd_bind (.pure ⟨hc₃, rfl⟩ _)
  · exact .spaceOrEnd_bind (.pure ⟨hc₂, rfl⟩ _)

theorem leadingBreaks_tracks {n₁ n₂ : Nat} (widest : Nat) (hc : c.Inside m)
    (h₁ : c.rest.length < n₁)
    (h₂ : c.rest.length < n₂) :
    Tracks m (Cursor.Inside m) c (leadingBreaks n₁ widest) (leadingBreaks n₂ widest) := by
  induction n₂ generalizing c n₁ widest with
  | zero => exact absurd h₂ (Nat.not_lt_zero _)
  | succ n₂ ih =>
    obtain ⟨n₁, rfl⟩ := Nat.exists_eq_add_one_of_ne_zero (n := n₁) (by omega)
    rw [leadingBreaks, leadingBreaks]
    refine .peek_bind ?_
    rw [hc.shows.peek_within]
    refine .ite Iff.rfl (fun hspace => ?_) fun _ => .ite Iff.rfl (fun hbreak => ?_) fun _ =>
      .pure ⟨hc, rfl⟩ _
    · have htwo := hc.solid.lt_length (n := 0)
        (by rw [← Cursor.peek_eq_peekAt, beq_iff_eq.mp hspace]; rfl)
      have hlength : (c.advance 1).rest.length = c.rest.length - 1 := by
        rw [Cursor.rest_advance, List.length_drop]
      refine .skip_bind hc.solid (Nat.le_of_lt htwo) (.get_bind ?_)
      exact ih _ (hc.solid.inside_advance htwo) (by omega) (by omega)
    · have hlt := Cursor.length_takeBreak_lt hbreak
      refine .takeBreak_bind hc fun hc => .seq (ih widest hc (by omega) (by omega)) ?_
      rintro more _ c' - ⟨hc', rfl⟩
      exact .pure ⟨hc', rfl⟩ _

theorem skipIndentation_tracks (indent : Nat) (hc : c.Inside m) :
    Tracks m (Cursor.Inside m) c (skipIndentation indent) (skipIndentation indent) := by
  have hspaces : ∀ x, (x == ' ') = true → isGap x = true := by simp [isGap]
  have htaken : (c.within m).rest.takeWhile (· == ' ') = c.rest.takeWhile (· == ' ') :=
    congrArg Prod.fst (Cursor.takeWhile_within hc.solid (hc.takeWhile_behind hspaces))
  unfold skipIndentation
  refine .get_bind ?_
  dsimp only
  rw [Cursor.column_within, ← List.take_takeWhile, ← List.take_takeWhile, htaken]
  have hle : ((c.rest.takeWhile (· == ' ')).take (indent - c.column)).length ≤
      (c.rest.takeWhile (· == ' ')).length := List.length_take_le' _ _
  have hle' := (List.takeWhile_prefix (l := c.rest) (· == ' ')).length_le
  refine .skip hc.solid (Nat.le_trans hle hle') ⟨?_, rfl⟩
  have hleads :=
    (c.advance ((c.rest.takeWhile (· == ' ')).take (indent - c.column)).length).leads_advance
      ((c.rest.takeWhile (· == ' ')).length -
        ((c.rest.takeWhile (· == ' ')).take (indent - c.column)).length)
  rw [← Cursor.advance_add, Nat.add_sub_of_le hle] at hleads
  exact (hc.skipWhile hspaces).of_leads (hc.solid.advance _) hleads

theorem blockBreaks_tracks {indent n₁ n₂ : Nat} (hc : c.Inside m) (h₁ : c.rest.length < n₁)
    (h₂ : c.rest.length < n₂) :
    Tracks m (Cursor.Inside m) c (blockBreaks indent n₁) (blockBreaks indent n₂) := by
  induction n₂ generalizing c n₁ with
  | zero => exact absurd h₂ (Nat.not_lt_zero _)
  | succ n₂ ih =>
    obtain ⟨n₁, rfl⟩ := Nat.exists_eq_add_one_of_ne_zero (n := n₁) (by omega)
    rw [blockBreaks, blockBreaks]
    refine .seq (skipIndentation_tracks indent hc) ?_
    rintro _ _ c' hrun ⟨hc', rfl⟩
    have hle := (leads_of_run _ hrun).length_le
    refine .peek_bind ?_
    rw [hc'.shows.peek_within]
    refine .ite Iff.rfl (fun hbreak => ?_) fun _ => .pure ⟨hc', rfl⟩ _
    have hlt := Cursor.length_takeBreak_lt hbreak
    refine .takeBreak_bind hc' fun hc => .seq (ih hc (by omega) (by omega)) ?_
    rintro more _ c'' - ⟨hc'', rfl⟩
    exact .pure ⟨hc'', rfl⟩ _

theorem length_takeLine_lt (h : c.peek ≠ endMark) :
    (c.skipWhile fun x => !isBreakOrEnd x).takeBreak.2.rest.length < c.rest.length := by
  have hbreak := (c.skipWhile fun x => !isBreakOrEnd x).leads_takeBreak.length_le
  by_cases hline : (!isBreakOrEnd c.peek) = true
  · exact Nat.lt_of_le_of_lt hbreak (Cursor.length_skipWhile_lt rfl hline)
  · have hnone : c.takeWhile (fun x => !isBreakOrEnd x) = ([], c) :=
      Cursor.takeWhile_of_peek (Bool.eq_false_iff.mpr hline)
    rw [Cursor.skipWhile, hnone]
    refine Cursor.length_takeBreak_lt ?_
    simpa [isBreakOrEnd, h] using hline

theorem blockLines_follows {folded : Bool} {indent n₁ n₂ : Nat} (breaks : Text) (hc : c.Inside m)
    (h₁ : c.rest.length < n₁) (h₂ : c.rest.length < n₂) :
    Follows m.Lost (fun t c' => c'.Inside m ∧ t = c'.within m) (c.within m) c
      (blockLines folded indent n₁ breaks) (blockLines folded indent n₂ breaks) := by
  induction n₂ generalizing c n₁ breaks with
  | zero => exact absurd h₂ (Nat.not_lt_zero _)
  | succ n₂ ih =>
    obtain ⟨n₁, rfl⟩ := Nat.exists_eq_add_one_of_ne_zero (n := n₁) (by omega)
    rw [blockLines, blockLines]
    refine .get_bind ?_
    rw [hc.shows.peek_within, Cursor.column_within]
    refine .ite Iff.rfl (fun _ => .pure ⟨hc, rfl⟩ _) fun hmore => ?_
    have hlt := length_takeLine_lt fun hend => hmore (by rw [hend, beq_self_eq_true, Bool.or_true])
    refine .takeLine_bind hc fun hc => .takeBreak_bind hc fun hc => ?_
    refine .seq (blockBreaks_tracks hc (by omega) (by omega)) ?_
    rintro more _ c' hrun ⟨hc', rfl⟩
    have hle := (leads_of_run _ hrun).length_le
    refine .get_bind ?_
    rw [hc'.shows.peek_within, Cursor.column_within]
    refine .ite Iff.rfl (fun _ => ?_) fun _ => .pure ⟨hc', rfl⟩ _
    dsimp only
    refine .bind (ih more hc' (by omega) (by omega)) ?_
    rintro ⟨text, last, tail⟩ _ c'' - ⟨hc'', rfl⟩
    exact .pure ⟨hc'', rfl⟩ _

theorem blockStart_tracks {least n₁ n₂ : Nat} (indentation : Option Nat) (hc : c.Inside m)
    (h₁ : c.rest.length < n₁) (h₂ : c.rest.length < n₂) :
    Tracks m (Cursor.Inside m) c (blockStart least n₁ indentation)
      (blockStart least n₂ indentation) := by
  cases indentation with
  | none =>
    refine .seq (leadingBreaks_tracks 0 hc h₁ h₂) ?_
    rintro _ _ c' - ⟨hc', rfl⟩
    exact .pure ⟨hc', rfl⟩ _
  | some n =>
    refine .seq (blockBreaks_tracks hc h₁ h₂) ?_
    rintro _ _ c' - ⟨hc', rfl⟩
    exact .pure ⟨hc', rfl⟩ _

theorem blockBody_follows {folded : Bool} {indent : Nat} (indentation : Option Nat)
    (hc : c.Inside m) :
    Follows m.Lost (fun t c' => c'.Inside m ∧ t = c'.within m) (c.within m) c
      (blockBody folded indent indentation) (blockBody folded indent indentation) := by
  have hfuel : c.rest.length < (c.within m).rest.length + 1 := by
    rw [Cursor.rest_within, List.length_append]
    omega
  unfold blockBody
  refine .get_bind (.seq (blockStart_tracks indentation hc hfuel (Nat.lt_succ_self _)) ?_)
  rintro ⟨breaks, column⟩ _ c' hrun ⟨hc', rfl⟩
  have hle := (leads_of_run _ hrun).length_le
  exact blockLines_follows breaks hc' (by omega) (by omega)

/-- **A block scalar** that does not run on into the blanks behind the text is read the same without
them. -/
theorem blockScalar_follows (folded : Bool) (indent : Nat) (hc : c.Solid)
    (hpos : 0 < c.rest.length) :
    Follows m.Lost (fun t c' => c'.Inside m ∧ t = c'.within m) (c.within m) c
      (blockScalar folded indent) (blockScalar folded indent) := by
  unfold blockScalar
  refine .skip_bind hc hpos (.seq (blockHeader_tracks (hc.advance 1)) ?_)
  rintro ⟨chomping, indentation⟩ _ c₁ - ⟨hc₁, rfl⟩
  refine .seq (skipLineEnd_follows (.of_within m hc₁)) ?_
  rintro _ t c₂ - hmeets
  obtain ⟨hc₂, rfl⟩ | hlost := hmeets.inside_or_lost
  · refine .bind (blockBody_follows indentation hc₂) ?_
    rintro ⟨text, last, tail⟩ _ c₃ - ⟨hc₃, rfl⟩
    exact .pure ⟨hc₃, rfl⟩ _
  · exact .of_lost hlost

/-! ### Line ends behind a block scalar

A block scalar that gives up its last line end does not tell whether one was there.
-/

theorem peek_of_end (hend : c.rest = []) : c.peek = endMark := by
  rw [Cursor.peek, hend, List.headD_nil]

theorem length_within (m : Margin) (c : Cursor) :
    (c.within m).rest.length = c.rest.length + m.behind.length := List.length_append

theorem run_takeBreak (c : Cursor) :
    takeBreak.run c = .ok (c.takeBreak.1, c.takeBreak.2) := rfl

theorem takeBreak_of_end (hend : c.rest = []) : c.takeBreak = ([], c) := by
  rw [Cursor.takeBreak, peek_of_end hend]
  rfl

theorem run_skipIndentation_of_ne {indent : Nat} (h : c.peek ≠ ' ') :
    (skipIndentation indent).run c = .ok ((), c) := by
  have hnone : (c.rest.take (indent - c.column)).takeWhile (· == ' ') = [] := by
    rw [Cursor.peek] at h
    cases hrest : c.rest with
    | nil => rw [List.take_nil, List.takeWhile_nil]
    | cons x rest =>
      rw [hrest, List.headD_cons] at h
      cases indent - c.column with
      | zero => rfl
      | succ n => exact List.takeWhile_cons_of_neg (by simpa using h)
  rw [skipIndentation, run_get_bind, hnone]
  rfl

theorem isBreak_peek_or {c : Cursor} (h : ∀ x ∈ c.rest, isBreak x = true) :
    c.rest = [] ∨ isBreak c.peek = true := by
  cases hrest : c.rest with
  | nil => exact .inl rfl
  | cons x rest => exact .inr (by rw [Cursor.peek, hrest]; exact h x (by simp [hrest]))

theorem run_blockBreaks_of_end {indent : Nat} (hend : c.rest = []) (n : Nat) :
    (blockBreaks indent n).run c = .ok ([], c) := by
  have hpeek := peek_of_end hend
  cases n with
  | zero => rfl
  | succ n =>
    rw [blockBreaks, run_bind_of_ok (run_skipIndentation_of_ne (by rw [hpeek]; decide)),
      run_peek_bind, hpeek, if_neg (by decide)]
    rfl

theorem run_leadingBreaks_of_end (hend : c.rest = []) (n widest : Nat) :
    (leadingBreaks n widest).run c = .ok (([], widest), c) := by
  cases n with
  | zero => rfl
  | succ n =>
    rw [leadingBreaks, run_peek_bind, peek_of_end hend, if_neg (by decide), if_neg (by decide)]
    rfl

/-- Among line ends blank lines go on to the end. -/
theorem rest_of_run_blockBreaks {indent n : Nat} {s : Text} {t : Cursor}
    (hc : ∀ x ∈ c.rest, isBreak x = true) (hn : c.rest.length < n)
    (hrun : (blockBreaks indent n).run c = .ok (s, t)) : t.rest = [] := by
  induction n generalizing c s with
  | zero => exact absurd hn (Nat.not_lt_zero _)
  | succ n ih =>
    obtain hend | hbreak := isBreak_peek_or hc
    · rw [run_blockBreaks_of_end hend] at hrun
      obtain ⟨-, rfl⟩ := hrun
      exact hend
    · have hspace : c.peek ≠ ' ' := fun hspace => by
        rw [hspace] at hbreak
        exact absurd hbreak (by decide)
      have hlt := Cursor.length_takeBreak_lt hbreak
      rw [blockBreaks, run_bind_of_ok (run_skipIndentation_of_ne hspace), run_peek_bind,
        if_pos hbreak] at hrun
      obtain ⟨_, c', ⟨-, rfl⟩, hrun⟩ := exists_of_run_bind hrun
      obtain ⟨_, _, hrun, ⟨-, rfl⟩⟩ := exists_of_run_bind hrun
      exact ih (fun x hx => hc x (c.leads_takeBreak.suffix.subset hx)) (by omega) hrun

theorem rest_of_run_leadingBreaks {widest n : Nat} {r : Text × Nat} {t : Cursor}
    (hc : ∀ x ∈ c.rest, isBreak x = true) (hn : c.rest.length < n)
    (hrun : (leadingBreaks n widest).run c = .ok (r, t)) : t.rest = [] := by
  induction n generalizing c r with
  | zero => exact absurd hn (Nat.not_lt_zero _)
  | succ n ih =>
    rw [leadingBreaks, run_peek_bind] at hrun
    obtain hend | hbreak := isBreak_peek_or hc
    · rw [peek_of_end hend] at hrun
      obtain ⟨-, rfl⟩ := hrun
      exact hend
    · have hspace : ¬(c.peek == ' ') = true := fun hspace => by
        rw [beq_iff_eq.mp hspace] at hbreak
        exact absurd hbreak (by decide)
      have hlt := Cursor.length_takeBreak_lt hbreak
      rw [if_neg hspace, if_pos hbreak] at hrun
      obtain ⟨_, c', ⟨-, rfl⟩, hrun⟩ := exists_of_run_bind hrun
      obtain ⟨_, _, hrun, ⟨-, rfl⟩⟩ := exists_of_run_bind hrun
      exact ih (fun x hx => hc x (c.leads_takeBreak.suffix.subset hx)) (by omega) hrun

theorem run_blockLines_of_end {folded : Bool} {indent n : Nat} (breaks : Text)
    (hend : c.rest = []) :
    (blockLines folded indent n breaks).run c = .ok (([], [], breaks), c) := by
  cases n with
  | zero => rfl
  | succ n =>
    rw [blockLines, run_get_bind, peek_of_end hend, beq_self_eq_true, Bool.or_true, if_pos rfl]
    rfl

/-- Where only line ends are behind the text, a line does not go on behind it. -/
theorem takeWhile_behind_of_isBreak (hbehind : ∀ x ∈ m.behind, isBreak x = true) :
    m.behind.takeWhile (fun x => !isBreakOrEnd x) = [] := by
  cases hm : m.behind with
  | nil => rfl
  | cons x _ =>
    exact List.takeWhile_cons_of_neg (by simp [isBreakOrEnd, hbehind x (by simp [hm])])

/-- What is left behind the end of the text are line ends. -/
theorem isBreak_of_leads {t : Cursor} (hbehind : ∀ x ∈ m.behind, isBreak x = true)
    (hend : c.rest = []) (hleads : (c.within m).Leads t) : ∀ x ∈ t.rest, isBreak x = true := by
  intro x hx
  have hmem := hleads.suffix.subset hx
  rw [Cursor.rest_within, hend] at hmem
  exact hbehind x hmem

/-- Behind the last line of the text its end and the blank lines take all that is left. -/
theorem leads_of_run_lastBreaks {indent n : Nat} {lineEnd more : Text} {t₁ t₂ : Cursor}
    (hbehind : ∀ x ∈ m.behind, isBreak x = true) (hend : c.rest = [])
    (hn : m.behind.length < n) (hbreak : takeBreak.run (c.within m) = .ok (lineEnd, t₁))
    (hmore : (blockBreaks indent n).run t₁ = .ok (more, t₂)) :
    (c.within m).Leads t₂ ∧ t₂.rest = [] := by
  have hleads := leads_of_run _ hbreak
  have hleft := hleads.length_le
  rw [length_within, hend, List.length_nil] at hleft
  exact ⟨hleads.trans (leads_of_run _ hmore),
    rest_of_run_blockBreaks (isBreak_of_leads hbehind hend hleads) (by omega) hmore⟩

theorem blockLines_meets {folded : Bool} {indent n₁ n₂ : Nat} (breaks : Text)
    (hbehind : ∀ x ∈ m.behind, isBreak x = true) (hc : c.Inside m)
    (h₁ : (c.within m).rest.length < n₁) (h₂ : c.rest.length < n₂) {a : Text × Text × Text}
    {t : Cursor} (hrun : (blockLines folded indent n₁ breaks).run (c.within m) = .ok (a, t)) :
    ∃ a' c', (blockLines folded indent n₂ breaks).run c = .ok (a', c') ∧ a.1 = a'.1 ∧
      m.Meets t c' := by
  induction n₂ generalizing c n₁ breaks a with
  | zero => exact absurd h₂ (Nat.not_lt_zero _)
  | succ n₂ ih =>
    obtain ⟨n₁, rfl⟩ := Nat.exists_eq_add_one_of_ne_zero (n := n₁) (by omega)
    rw [blockLines, run_get_bind, hc.shows.peek_within, Cursor.column_within] at hrun
    rw [blockLines, run_get_bind]
    by_cases hstop : (decide (c.column ≠ indent) || c.peek == endMark) = true
    · rw [if_pos hstop] at hrun ⊢
      obtain ⟨rfl, rfl⟩ := hrun
      exact ⟨_, _, rfl, rfl, .of_within m hc.solid⟩
    rw [if_neg hstop] at hrun ⊢
    rw [length_within] at h₁
    have hlt := length_takeLine_lt (c := c) fun hend =>
      hstop (by rw [hend, beq_self_eq_true, Bool.or_true])
    rw [run_takeWhile_bind,
      Cursor.takeWhile_within hc.solid fun _ => takeWhile_behind_of_isBreak hbehind] at hrun
    rw [run_takeWhile_bind]
    dsimp only at hrun ⊢
    rw [← Cursor.skipWhile] at hrun ⊢
    have hc₁ := hc.solid.advance (c.rest.takeWhile fun x => !isBreakOrEnd x).length
    rw [← Cursor.skipWhile_eq] at hc₁
    obtain ⟨lineEnd, t₁, hbreak, hrun⟩ := exists_of_run_bind hrun
    obtain ⟨more, t₂, hmore, hrun⟩ := exists_of_run_bind hrun
    by_cases hend : (c.skipWhile fun x => !isBreakOrEnd x).rest = []
    · -- the line is the last one, and only line ends are behind it
      have hbreak' := run_takeBreak (c.skipWhile fun x => !isBreakOrEnd x)
      rw [takeBreak_of_end hend] at hbreak'
      rw [run_bind_of_ok hbreak', run_bind_of_ok (run_blockBreaks_of_end hend _), run_get_bind,
        peek_of_end hend, if_neg (by simp)]
      obtain ⟨hleads, hend₂⟩ := leads_of_run_lastBreaks hbehind hend (by omega) hbreak hmore
      rw [run_get_bind, peek_of_end hend₂, if_neg (by simp)] at hrun
      obtain ⟨rfl, rfl⟩ := hrun
      exact ⟨_, _, rfl, rfl, hc₁, hleads, fun hne => absurd hend hne⟩
    · have hin : (c.skipWhile fun x => !isBreakOrEnd x).Inside m := ⟨hc₁, .inr hend⟩
      obtain ⟨hbreak', hin'⟩ := hin.takeBreak
      rw [run_takeBreak, hbreak'] at hbreak
      obtain ⟨rfl, rfl⟩ := hbreak
      have hlt₂ : (c.skipWhile fun x => !isBreakOrEnd x).takeBreak.2.rest.length < n₂ := by omega
      obtain ⟨c₂, hmore', hc₂, rfl⟩ := blockBreaks_tracks hin' (by omega) hlt₂ more t₂ hmore id
      have hle := (leads_of_run _ hmore').length_le
      rw [run_bind_of_ok (run_takeBreak _), run_bind_of_ok hmore', run_get_bind]
      rw [run_get_bind, hc₂.shows.peek_within, Cursor.column_within] at hrun
      split at hrun
      · rename_i hnext
        rw [if_pos hnext]
        obtain ⟨⟨text, last, tail⟩, _, hlines, ⟨rfl, rfl⟩⟩ := exists_of_run_bind hrun
        obtain ⟨⟨text', last', tail'⟩, c₃, hlines', htext, hmeets⟩ :=
          ih more hc₂ (by rw [length_within]; omega) (by omega) hlines
        obtain rfl : text = text' := htext
        exact ⟨_, _, run_bind_of_ok hlines', rfl, hmeets⟩
      · rename_i hnext
        rw [if_neg hnext]
        obtain ⟨rfl, rfl⟩ := hrun
        exact ⟨_, _, rfl, rfl, .of_within m hc₂.solid⟩

theorem blockBody_meets {folded : Bool} {indent : Nat} (indentation : Option Nat)
    (hbehind : ∀ x ∈ m.behind, isBreak x = true) {t : Cursor} (h : m.Meets t c)
    {a : Text × Text × Text} {t' : Cursor}
    (hrun : (blockBody folded indent indentation).run t = .ok (a, t')) :
    ∃ a' c', (blockBody folded indent indentation).run c = .ok (a', c') ∧ a.1 = a'.1 ∧
      m.Meets t' c' := by
  unfold blockBody at hrun ⊢
  rw [run_get_bind] at hrun ⊢
  obtain ⟨⟨breaks, column⟩, t₁, hstart, hrun⟩ := exists_of_run_bind hrun
  by_cases hend : c.rest = []
  · have hleft := isBreak_of_leads hbehind hend h.leads
    have hend₁ : t₁.rest = [] := by
      cases indentation with
      | none =>
        obtain ⟨_, _, hbreaks, ⟨-, rfl⟩⟩ := exists_of_run_bind hstart
        exact rest_of_run_leadingBreaks hleft (Nat.lt_succ_self _) hbreaks
      | some n =>
        obtain ⟨_, _, hbreaks, ⟨-, rfl⟩⟩ := exists_of_run_bind hstart
        exact rest_of_run_blockBreaks hleft (Nat.lt_succ_self _) hbreaks
    rw [run_blockLines_of_end breaks hend₁] at hrun
    obtain ⟨rfl, rfl⟩ := hrun
    have hstart' : ∃ r, (blockStart (max indent 1) (c.rest.length + 1) indentation).run c =
        .ok (r, c) := by
      cases indentation with
      | none => exact ⟨_, run_bind_of_ok (run_leadingBreaks_of_end hend _ _)⟩
      | some n => exact ⟨_, run_bind_of_ok (run_blockBreaks_of_end hend _)⟩
    obtain ⟨⟨breaks', column'⟩, hstart'⟩ := hstart'
    refine ⟨([], [], breaks'), c, ?_, rfl, h.solid, h.leads.trans (leads_of_run _ hstart),
      fun hne => absurd hend hne⟩
    rw [run_bind_of_ok hstart']
    exact run_blockLines_of_end breaks' hend
  · obtain rfl := h.eq_within hend
    have hc : c.Inside m := ⟨h.solid, .inr hend⟩
    have hfuel : c.rest.length < (c.within m).rest.length + 1 := by
      rw [length_within]
      omega
    obtain ⟨c₁, hstart', hc₁, rfl⟩ :=
      blockStart_tracks indentation hc hfuel (Nat.lt_succ_self _) _ t₁ hstart id
    have hle := (leads_of_run _ hstart').length_le
    have hle' := (leads_of_run _ hstart).length_le
    rw [run_bind_of_ok hstart']
    exact blockLines_meets breaks hbehind hc₁ (Nat.lt_succ_of_le hle') (Nat.lt_succ_of_le hle) hrun

/-- How the block scalar at a place chomps. -/
def chomping (c : Cursor) : Chomping :=
  match (do skip 1; blockHeader).run c with
  | .ok ((chomping, _), _) => chomping
  | .error _ => .keep

theorem chomping_of_within (hc : c.Solid) (hpos : 0 < c.rest.length)
    (h : chomping (c.within m) = .strip) : chomping c = .strip := by
  have hheader : Tracks m Cursor.Solid c (do skip 1; blockHeader) (do skip 1; blockHeader) :=
    .skip_bind hc hpos (blockHeader_tracks (hc.advance 1))
  unfold chomping at h
  split at h
  · rename_i indentation t hrun
    obtain ⟨c', hrun', -⟩ := hheader _ t hrun id
    rw [chomping, hrun', ← h]
  · exact nomatch h

/-- **A block scalar that strips** its line ends is read the same without those behind the text. -/
theorem blockScalar_meets (folded : Bool) (indent : Nat) (hc : c.Solid) (hpos : 0 < c.rest.length)
    (hstrip : chomping c = .strip) (hbehind : ∀ x ∈ m.behind, isBreak x = true) :
    Follows (fun _ => False) m.Meets (c.within m) c (blockScalar folded indent)
      (blockScalar folded indent) := by
  unfold blockScalar
  refine .skip_bind hc hpos (.seq (blockHeader_tracks (hc.advance 1)) ?_)
  rintro ⟨chomping, indentation⟩ _ c₁ hheader ⟨hc₁, rfl⟩
  have hheader' : (do skip 1; blockHeader).run c = .ok ((chomping, indentation), c₁) := hheader
  rw [Lexer.chomping, hheader'] at hstrip
  obtain rfl : chomping = .strip := hstrip
  refine .seq (skipLineEnd_follows (.of_within m hc₁)) ?_
  rintro _ t c₂ - hmeets
  intro a t' hrun _
  obtain ⟨⟨text, last, tail⟩, _, hbody, ⟨rfl, rfl⟩⟩ := exists_of_run_bind hrun
  obtain ⟨⟨text', last', tail'⟩, c₃, hbody', htext, hmeets'⟩ :=
    blockBody_meets indentation hbehind hmeets hbody
  obtain rfl : text = text' := htext
  exact ⟨c₃, run_bind_of_ok hbody', hmeets'⟩

end Lexer

/-- The block scalar at a place gives up its line ends, and nothing else is behind the text. -/
def Margin.Spares (m : Margin) (c : Cursor) : Prop :=
  Lexer.chomping c = .strip ∧ ∀ x ∈ m.behind, isBreak x = true

end Yaml

end Scaffold
