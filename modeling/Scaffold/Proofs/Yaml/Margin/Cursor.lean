import Mathlib.Data.List.Basic
import Mathlib.Data.List.TakeWhile
import Scaffold.Proofs.Follows
import Scaffold.Proofs.Yaml.Progress

/-!
# A text within margins

A text with blanks around it, and the same text without them. A place in the one is a place in the
other: the blanks in front count for the index and the line, and those behind follow what is left.

As long as something of the text itself is left, what comes next is the same in both. At its end the
one shows the blanks and the other nothing. Most readers do not tell the two apart, since to them a
blank behind the text is as good as the end. Other readers move past blanks; but the text itself
does not end with one, so they stop before its end, unless they are past it already.

## Main definitions

* `Yaml.Margin` — the blanks around a text
* `Yaml.Cursor.within` — a place in the text with the blanks around it
* `Yaml.Lexer.Tracks` — a reader that reads the same with and without the blanks

## Main results

* `Yaml.Cursor.advance_within`, `Yaml.Cursor.takeWhile_within`, `Yaml.Cursor.takeBreak_within` —
  going on with and without the blanks
-/

namespace Scaffold

namespace Yaml

/-! ### Blanks -/

/-- A character that separates tokens: a space, a tab, or the end of a line. -/
def isGap (c : Char) : Bool := c == ' ' || c == '\t' || isBreak c

/-- All blanks. -/
def gaps : List Char := [' ', '\t', '\n', '\r', '\u0085', '\u2028', '\u2029']

theorem mem_gaps_of_isGap {t : Char} (h : isGap t = true) : t ∈ gaps := by
  simp only [isGap, isBreak, Bool.or_eq_true, beq_iff_eq] at h
  simp only [gaps, List.mem_cons, List.not_mem_nil, or_false, ← Char.toNat_inj] at h ⊢
  simpa [or_assoc] using h

theorem eq_false_of_isGap {test : Char → Bool} (h : gaps.any test = false) (t : Char)
    (ht : isGap t = true) : test t = false :=
  Bool.eq_false_iff.mpr (List.any_eq_false.mp h t (mem_gaps_of_isGap ht))

theorem isGap_of_isBreak {t : Char} (h : isBreak t = true) : isGap t = true := by
  rw [isGap, h, Bool.or_true]

theorem isGapOrEnd_eq (t : Char) : isGapOrEnd t = (t == endMark || isGap t) := by
  simp only [isGapOrEnd, isSpaceOrEnd, isBreakOrEnd, isGap]
  ac_rfl

/-- A test, or what is done with a character, that takes a blank for the end of the text. -/
def Blind {α : Type} (f : Char → α) : Prop := ∀ t, isGap t = true → f t = f endMark

theorem blind_of_map_eq {α : Type} {f : Char → α} (h : gaps.map f = gaps.map fun _ => f endMark) :
    Blind f := fun t ht =>
  List.map_inj_left.mp h t (mem_gaps_of_isGap ht)

/-- The blanks around a text: those behind it, and how many characters and line ends are in front of
it. -/
structure Margin where
  behind : Text
  index : Nat
  line : Nat
  blank : ∀ t ∈ behind, isGap t = true

/-- No blank passes the test. -/
theorem takeWhile_eq_nil_of_blank {s : Text} {test : Char → Bool} (hs : ∀ t ∈ s, isGap t = true)
    (htest : ∀ t, isGap t = true → test t = false) : s.takeWhile test = [] := by
  cases s with
  | nil => rfl
  | cons t s => exact List.takeWhile_cons_of_neg (by simp [htest t (hs t List.mem_cons_self)])

theorem Margin.takeWhile_behind (m : Margin) {test : Char → Bool}
    (htest : ∀ t, isGap t = true → test t = false) : m.behind.takeWhile test = [] :=
  takeWhile_eq_nil_of_blank m.blank htest

namespace Cursor

variable {m : Margin} {c : Cursor} {test : Char → Bool}

/-- The same place in the text with the blanks around it. -/
def within (m : Margin) (c : Cursor) : Cursor :=
  ⟨c.rest ++ m.behind, c.index + m.index, c.line + m.line, c.column⟩

/-- What is left does not end with a blank. -/
def Solid (c : Cursor) : Prop := ∀ t ∈ c.rest.getLast?, isGap t = false

/-- What comes next is the same within the margin: something of the text is left, or no blanks are
behind it. -/
def Shows (m : Margin) (c : Cursor) : Prop := m.behind = [] ∨ c.rest ≠ []

/-- A place that is in front of the last character of the text. -/
structure Inside (m : Margin) (c : Cursor) : Prop where
  solid : c.Solid
  shows : c.Shows m

theorem Solid.of_suffix {c' : Cursor} (h : c.Solid) (hsuffix : c'.rest <:+ c.rest) : c'.Solid := by
  obtain ⟨p, hp⟩ := hsuffix
  exact fun t ht => h t (hp ▸ List.mem_getLast?_append_of_mem_getLast? ht)

theorem Solid.advance (h : c.Solid) (n : Nat) : (c.advance n).Solid :=
  h.of_suffix (c.leads_advance n).suffix

/-- Nothing else than blanks is left. -/
def Blank (c : Cursor) : Prop := ∀ t ∈ c.rest, isGap t = true

theorem Blank.of_leads {c' : Cursor} (h : c.Blank) (hleads : c.Leads c') : c'.Blank :=
  fun t ht => h t (hleads.suffix.subset ht)

theorem Blank.apply_peek {α : Type} {f : Char → α} (h : c.Blank) (hf : Blind f) :
    f c.peek = f endMark := by
  rw [peek]
  cases hrest : c.rest with
  | nil => rfl
  | cons t rest => exact hf t (h t (by simp [hrest]))

theorem Blank.peek_ne (h : c.Blank) {ch : Char} (hch : ch ≠ endMark) (hgap : isGap ch = false) :
    c.peek ≠ ch := by
  rw [peek]
  cases hrest : c.rest with
  | nil => exact hch.symm
  | cons t rest =>
    rintro rfl
    exact absurd ((h t (by simp [hrest])).symm.trans hgap) (by decide)

/-- Blanks that do not begin with a blank are none. -/
theorem Blank.rest_eq_nil (h : c.Blank) (hgap : isGap c.peek = false) : c.rest = [] := by
  cases hrest : c.rest with
  | nil => rfl
  | cons t rest =>
    rw [peek, hrest, List.headD_cons, h t (by simp [hrest])] at hgap
    exact absurd hgap (by decide)

/-- A test that no blank passes takes nothing. -/
theorem Blank.takeWhile (h : c.Blank) (htest : ∀ t, isGap t = true → test t = false) :
    c.takeWhile test = ([], c) := by
  rw [Cursor.takeWhile, takeWhile_eq_nil_of_blank h htest]
  rfl

/-! ### Looking ahead -/

theorem peekAt_eq (c : Cursor) (n : Nat) : c.peekAt n = c.rest[n]?.getD endMark := by
  rw [peekAt, List.headD_eq_head?_getD, List.head?_drop]

theorem peek_eq_peekAt (c : Cursor) : c.peek = c.peekAt 0 := rfl

theorem peekAt_within {n : Nat} (h : n < c.rest.length) :
    (c.within m).peekAt n = c.peekAt n := by
  rw [peekAt_eq, peekAt_eq, within, List.getElem?_append_left h]

theorem Shows.peek_within (h : c.Shows m) : (c.within m).peek = c.peek := by
  obtain h | h := h
  · rw [peek, peek, within, h, List.append_nil]
  · exact peekAt_within (List.length_pos_iff.mpr h)

/-- Behind the text one looks at a blank or at nothing. -/
theorem peekAt_within_or (m : Margin) (c : Cursor) (n : Nat) :
    (c.within m).peekAt n = c.peekAt n ∨
      c.rest.length ≤ n ∧ c.peekAt n = endMark ∧ isGap ((c.within m).peekAt n) = true := by
  obtain h | h := Nat.lt_or_ge n c.rest.length
  · exact .inl (peekAt_within h)
  · have hend : c.peekAt n = endMark := by rw [peekAt_eq, List.getElem?_eq_none h, Option.getD_none]
    rw [hend, peekAt_eq, within, List.getElem?_append_right h]
    rcases hgap : m.behind[n - c.rest.length]? with _ | t
    · exact .inl rfl
    · exact .inr ⟨h, rfl, m.blank t (List.mem_of_getElem? hgap)⟩

theorem apply_peekAt_within {α : Type} {f : Char → α} (hf : Blind f) (m : Margin) (c : Cursor)
    (n : Nat) : f ((c.within m).peekAt n) = f (c.peekAt n) := by
  obtain h | ⟨-, hend, hgap⟩ := peekAt_within_or m c n
  · rw [h]
  · rw [hend, hf _ hgap]

theorem apply_peek_within {α : Type} {f : Char → α} (hf : Blind f) (m : Margin) (c : Cursor) :
    f (c.within m).peek = f c.peek :=
  apply_peekAt_within hf m c 0

/-- What passes a test that neither a blank nor the end passes is a character of the text. -/
theorem lt_length_of_peekAt (test : Char → Bool) {n : Nat} (htest : Blind test)
    (hend : test endMark = false)
    (h : test ((c.within m).peekAt n) = true) : n < c.rest.length := by
  refine Nat.lt_of_not_le fun hle => ?_
  rw [apply_peekAt_within htest, peekAt_eq, List.getElem?_eq_none hle, Option.getD_none, hend] at h
  exact absurd h (by decide)

theorem peek_within_eq_iff {ch : Char} (hch : ch ≠ endMark) (hgap : isGap ch = false) :
    (c.within m).peek = ch ↔ c.peek = ch := by
  refine Iff.of_eq (apply_peek_within (f := (· = ch)) (fun t ht => ?_) m c)
  have hne : t ≠ ch := by
    rintro rfl
    exact absurd (ht.symm.trans hgap) (by decide)
  exact (eq_false hne).trans (eq_false hch.symm).symm

theorem not_isSpaceOrEnd_within (h : (!isSpaceOrEnd c.peek) = true) :
    (!isSpaceOrEnd (c.within m).peek) = true := by
  obtain hsame | ⟨-, hend, -⟩ := peekAt_within_or m c 0
  · exact (congrArg (!isSpaceOrEnd ·) hsame).trans h
  · exact absurd ((congrArg (!isSpaceOrEnd ·) hend).symm.trans h) (by decide)

/-! ### Going on -/

theorem rest_within (m : Margin) (c : Cursor) : (c.within m).rest = c.rest ++ m.behind := rfl

theorem column_within (m : Margin) (c : Cursor) : (c.within m).column = c.column := rfl

theorem skipWhile_eq (c : Cursor) (test : Char → Bool) :
    c.skipWhile test = c.advance (c.rest.takeWhile test).length := rfl

/-- Whether a line end is one of two characters is told by the text alone, since the text does not
end with one. -/
theorem next_within (h : c.Solid) (hne : c.rest ≠ []) : (c.within m).next = c.next.within m := by
  obtain ⟨_ | ⟨ch, rest⟩, index, line, column⟩ := c
  · exact absurd rfl hne
  have hpair : (ch == '\r' && (rest ++ m.behind).headD endMark == '\n') =
      (ch == '\r' && rest.headD endMark == '\n') := by
    cases rest with
    | nil =>
      have hch : isGap ch = false := h ch rfl
      have hne : ch ≠ '\r' := by
        rintro rfl
        exact absurd hch (by decide)
      rw [beq_false_of_ne hne, Bool.false_and, Bool.false_and]
    | cons => rfl
  simp only [within, next, List.cons_append, hpair]
  split <;> simp only [Cursor.mk.injEq, true_and, and_true] <;> omega

theorem advance_within (h : c.Solid) {n : Nat} (hn : n ≤ c.rest.length) :
    (c.within m).advance n = (c.advance n).within m := by
  induction n generalizing c with
  | zero => rfl
  | succ n ih =>
    have hne : c.rest ≠ [] := List.ne_nil_of_length_pos (by omega)
    have hleft : n ≤ c.next.rest.length := by
      rw [rest_next, List.length_tail]
      omega
    rw [advance, advance, next_within h hne]
    exact ih (h.advance 1) hleft

theorem of_length_le_takeWhile {s : Text} (h : s.length ≤ (s.takeWhile test).length) :
    ∀ t ∈ s, test t = true :=
  List.takeWhile_eq_self_iff.mp ((List.takeWhile_prefix test).eq_of_length_le h)

/-- The characters that pass a test are those of the text if the test does not go on behind it. -/
theorem takeWhile_within (h : c.Solid)
    (hstop : (∀ t ∈ c.rest, test t = true) → m.behind.takeWhile test = []) :
    (c.within m).takeWhile test = ((c.takeWhile test).1, (c.takeWhile test).2.within m) := by
  have hprefix := List.takeWhile_prefix (l := c.rest) test
  have htaken : (c.rest ++ m.behind).takeWhile test = c.rest.takeWhile test := by
    rw [List.takeWhile_append]
    split
    · rename_i hall
      rw [hstop (of_length_le_takeWhile (Nat.le_of_eq hall.symm)), List.append_nil,
        hprefix.eq_of_length hall]
    · rfl
  unfold takeWhile
  dsimp only
  rw [rest_within, htaken, advance_within h hprefix.length_le]

/-- A test that does not pass takes nothing. -/
theorem takeWhile_of_peek (h : test c.peek = false) : c.takeWhile test = ([], c) := by
  have hnil : c.rest.takeWhile test = [] := by
    rw [peek] at h
    cases hrest : c.rest with
    | nil => rfl
    | cons t rest =>
      rw [hrest, List.headD_cons] at h
      exact List.takeWhile_cons_of_neg (by simp [h])
  rw [Cursor.takeWhile, hnil]
  rfl

/-- A character that passes is moved past. -/
theorem length_skipWhile_lt (hend : test endMark = false) (h : test c.peek = true) :
    (c.skipWhile test).rest.length < c.rest.length := by
  rw [skipWhile_eq, rest_advance]
  rcases hrest : c.rest with _ | ⟨t, rest⟩
  · rw [peek, hrest, List.headD_nil, hend] at h
    exact absurd h (by decide)
  · rw [peek, hrest, List.headD_cons] at h
    rw [List.takeWhile_cons_of_pos h, List.length_cons, List.drop_succ_cons, List.length_drop,
      List.length_cons]
    omega

/-- A character that passes is taken. -/
theorem isEmpty_takeWhile (hend : test endMark = false) (h : test c.peek = true) :
    (c.takeWhile test).1.isEmpty = false := by
  refine Bool.eq_false_iff.mpr fun hempty => Nat.ne_of_lt (length_skipWhile_lt hend h) ?_
  have hnil : c.rest.takeWhile test = [] := List.isEmpty_iff.mp hempty
  rw [skipWhile_eq, hnil, rest_advance]
  rfl

/-- Nothing else than blanks is left only at the end. -/
theorem Inside.behind_eq_nil (h : c.Inside m) (hall : ∀ t ∈ c.rest, isGap t = true) :
    m.behind = [] := by
  refine h.shows.resolve_right fun hne => ?_
  have hlast := hall _ (List.getLast_mem hne)
  rw [h.solid _ (List.getLast?_eq_some_getLast hne)] at hlast
  exact absurd hlast (by decide)

theorem blank_within (m : Margin) (hend : c.rest = []) : (c.within m).Blank := fun t ht => by
  rw [rest_within, hend, List.nil_append] at ht
  exact m.blank t ht

/-- In front of the last character, or behind it. -/
theorem Solid.inside_or_blank (h : c.Solid) (m : Margin) : c.Inside m ∨ (c.within m).Blank := by
  by_cases hend : c.rest = []
  · exact .inr (blank_within m hend)
  · exact .inl ⟨h, .inr hend⟩

/-- The blanks that pass a test are those of the text. -/
theorem Inside.takeWhile_behind (h : c.Inside m) (htest : ∀ t, test t = true → isGap t = true)
    (hall : ∀ t ∈ c.rest, test t = true) : m.behind.takeWhile test = [] := by
  rw [h.behind_eq_nil fun t ht => htest t (hall t ht), List.takeWhile_nil]

/-- Past blanks one is still in front of the last character. -/
theorem Inside.skipWhile (h : c.Inside m) (htest : ∀ t, test t = true → isGap t = true) :
    (c.skipWhile test).Inside m := by
  refine ⟨h.solid.advance _, ?_⟩
  by_cases hbehind : m.behind = []
  · exact .inl hbehind
  · refine .inr fun hnil => hbehind (h.behind_eq_nil fun t ht => htest t ?_)
    rw [skipWhile_eq, rest_advance, List.drop_eq_nil_iff] at hnil
    exact of_length_le_takeWhile hnil t ht

/-- Behind a blank something of the text is left. -/
theorem Solid.lt_length (h : c.Solid) {n : Nat} (hgap : isGap (c.peekAt n) = true) :
    n + 1 < c.rest.length := by
  rw [peekAt_eq] at hgap
  rcases hget : c.rest[n]? with _ | t
  · rw [hget] at hgap
    exact absurd hgap (by decide)
  obtain ⟨hn, rfl⟩ := List.getElem?_eq_some_iff.mp hget
  refine Nat.lt_of_le_of_ne hn fun hlast => ?_
  have hsolid := h c.rest[n]
    (by rw [List.getLast?_eq_getElem?, ← hlast, Nat.add_sub_cancel, hget]; rfl)
  rw [hget, Option.getD_some, hsolid] at hgap
  exact absurd hgap (by decide)

/-- What is in front of a place that is in front of the last character. -/
theorem Inside.of_leads {c' : Cursor} (h : c'.Inside m) (hc : c.Solid) (hleads : c.Leads c') :
    c.Inside m :=
  ⟨hc, h.shows.imp_right fun hne hnil => hne (List.suffix_nil.mp (hnil ▸ hleads.suffix))⟩

/-- Fewer characters than are left lead to a place in front of the last one. -/
theorem Solid.inside_advance (h : c.Solid) {n : Nat} (hn : n < c.rest.length) :
    (c.advance n).Inside m := by
  refine ⟨h.advance n, .inr (List.ne_nil_of_length_pos ?_)⟩
  rw [rest_advance, List.length_drop]
  omega

/-- A line end belongs to the text as a whole, and something is left behind it. -/
theorem Inside.takeBreak (h : c.Inside m) :
    (c.within m).takeBreak = (c.takeBreak.1, c.takeBreak.2.within m) ∧ c.takeBreak.2.Inside m := by
  unfold Cursor.takeBreak
  simp only [h.shows.peek_within]
  by_cases hbreak : isBreak c.peek
  · have hone := h.solid.lt_length (n := 0) (isGap_of_isBreak hbreak)
    have hnext := advance_within (m := m) h.solid (n := 1) (Nat.le_of_lt hone)
    simp only [hbreak, peekAt_within hone, Bool.not_true, Bool.false_eq_true, ↓reduceIte]
    by_cases hpair : c.peek == '\r' && c.peekAt 1 == '\n'
    · have htwo := h.solid.lt_length (n := 1) (by
        rw [beq_iff_eq.mp (Bool.and_eq_true_iff.mp hpair).2]
        rfl)
      simp only [hpair, ↓reduceIte]
      exact ⟨by rw [advance_within h.solid (Nat.le_of_lt htwo)], h.solid.inside_advance htwo⟩
    · simp only [hpair, Bool.false_eq_true, ↓reduceIte]
      by_cases hkept : c.peek.toNat == 0x2028 || c.peek.toNat == 0x2029
      · simp only [hkept, ↓reduceIte]
        exact ⟨congrArg _ hnext, h.solid.inside_advance hone⟩
      · simp only [hkept, Bool.false_eq_true, ↓reduceIte]
        exact ⟨congrArg _ hnext, h.solid.inside_advance hone⟩
  · simp only [hbreak, Bool.not_false, ↓reduceIte, true_and]
    exact h

/-- A line end is moved past. -/
theorem length_takeBreak_lt (h : isBreak c.peek = true) :
    c.takeBreak.2.rest.length < c.rest.length := by
  have hpos : 0 < c.rest.length :=
    length_pos_of_peek rfl (by rintro hend; rw [hend] at h; exact absurd h (by decide))
  have hnext : c.next.rest.length < c.rest.length := by
    rw [rest_next, List.length_tail]
    omega
  rw [Cursor.takeBreak, if_neg (by simp [h])]
  split
  · rw [rest_advance, List.length_drop]
    omega
  · split <;> exact hnext

/-- A marker without blanks does not go on behind the text. -/
theorem isPrefixOf_within {marker : Text} (hmarker : ∀ t ∈ marker, isGap t = false) :
    marker.isPrefixOf (c.within m).rest = marker.isPrefixOf c.rest := by
  rw [Bool.eq_iff_iff, List.isPrefixOf_iff_prefix, List.isPrefixOf_iff_prefix]
  refine ⟨fun h => ?_, fun h => h.trans (List.prefix_append _ _)⟩
  obtain hle | hlt := Nat.le_total marker.length c.rest.length
  · exact List.prefix_of_prefix_length_le h (List.prefix_append _ _) hle
  · obtain ⟨q, rfl⟩ := List.prefix_of_prefix_length_le (List.prefix_append c.rest m.behind) h hlt
    have hq : q <+: m.behind := (List.prefix_append_right_inj c.rest).mp h
    cases q with
    | nil => exact (List.append_nil c.rest).symm ▸ List.prefix_rfl
    | cons t q =>
      have hgap := m.blank t (hq.subset List.mem_cons_self)
      rw [hmarker t (by simp)] at hgap
      exact absurd hgap (by decide)

theorem blind_isGapOrEnd : Blind isGapOrEnd := fun t ht => by
  rw [isGapOrEnd_eq, ht, Bool.or_true]
  rfl

theorem atMarker_within {marker : Text} (hmarker : marker.any isGap = false) :
    (c.within m).atMarker marker = c.atMarker marker := by
  have hsolid : ∀ t ∈ marker, isGap t = false := fun t ht =>
    Bool.eq_false_iff.mpr (List.any_eq_false.mp hmarker t ht)
  rw [atMarker, atMarker, isPrefixOf_within hsolid, apply_peekAt_within blind_isGapOrEnd]

theorem atAnyMarker_within (m : Margin) (c : Cursor) :
    (c.within m).atAnyMarker = c.atAnyMarker := by
  rw [atAnyMarker, atAnyMarker, atMarker_within (by decide), atMarker_within (by decide)]

end Cursor

/-! ### Readers -/

/-- The place with the blanks around belongs to the place without them, or lies behind the text when
that is over. -/
structure Margin.Meets (m : Margin) (t c : Cursor) : Prop where
  solid : c.Solid
  leads : (c.within m).Leads t
  eq_within : c.rest ≠ [] → t = c.within m

namespace Margin.Meets

variable {m : Margin} {t c : Cursor} {test : Char → Bool}

theorem of_within (m : Margin) (hc : c.Solid) : m.Meets (c.within m) c :=
  ⟨hc, .refl _, fun _ => rfl⟩

/-- Behind the text is nothing but blanks. -/
theorem blank (h : m.Meets t c) (hend : c.rest = []) : t.Blank := fun x hx => by
  have hmem := h.leads.suffix.subset hx
  rw [Cursor.within, hend, List.nil_append] at hmem
  exact m.blank x hmem

theorem apply_peek {α : Type} {f : Char → α} (h : m.Meets t c) (hf : Blind f) :
    f t.peek = f c.peek := by
  by_cases hend : c.rest = []
  · rw [(h.blank hend).apply_peek hf, Cursor.peek, hend, List.headD_nil]
  · rw [h.eq_within hend, Cursor.apply_peek_within hf]

theorem skipWhile (h : m.Meets t c) (test : Char → Bool) :
    m.Meets (t.skipWhile test) (c.skipWhile test) := by
  by_cases hend : c.rest = []
  · have hstill : c.skipWhile test = c := by
      rw [Cursor.skipWhile, Cursor.takeWhile, hend]
      rfl
    rw [hstill]
    exact ⟨h.solid, h.leads.trans (t.leads_advance _), fun hne => absurd hend hne⟩
  rw [h.eq_within hend]
  by_cases hall : ∀ x ∈ c.rest, test x = true
  · -- the characters that pass go on behind the text
    have hself := List.takeWhile_eq_self_iff.mpr hall
    have hrest : (c.skipWhile test).rest = [] := by
      rw [Cursor.skipWhile_eq, Cursor.rest_advance, hself, List.drop_length]
    refine ⟨h.solid.advance _, ?_, fun hne => absurd hrest hne⟩
    rw [Cursor.skipWhile_eq, Cursor.skipWhile_eq, Cursor.rest_within,
      List.takeWhile_append_of_pos hall, hself, List.length_append, Cursor.advance_add,
      Cursor.advance_within h.solid (Nat.le_refl _)]
    exact Cursor.leads_advance _ _
  · rw [Cursor.skipWhile, Cursor.takeWhile_within h.solid fun hall' => absurd hall' hall]
    exact of_within m (h.solid.advance _)

theorem skipRemark (h : m.Meets t c) : m.Meets t.skipRemark c.skipRemark := by
  have hspaces := h.skipWhile (· == ' ')
  have hremark : ((t.skipWhile (· == ' ')).peek == '#') = ((c.skipWhile (· == ' ')).peek == '#') :=
    hspaces.apply_peek (f := (· == '#')) (blind_of_map_eq rfl)
  unfold Cursor.skipRemark
  dsimp only
  rw [hremark]
  split
  · exact hspaces.skipWhile _
  · exact hspaces

theorem takeBreak (h : m.Meets t c) : m.Meets t.takeBreak.2 c.takeBreak.2 := by
  by_cases hend : c.rest = []
  · have hstill : c.takeBreak.2 = c := by
      rw [Cursor.takeBreak, Cursor.peek, hend]
      rfl
    rw [hstill]
    exact ⟨h.solid, h.leads.trans t.leads_takeBreak, fun hne => absurd hend hne⟩
  · have hc : c.Inside m := ⟨h.solid, .inr hend⟩
    rw [h.eq_within hend, hc.takeBreak.1]
    exact of_within m hc.takeBreak.2.solid

end Margin.Meets

/-- A place among the blanks behind the text, from where nothing leads back. -/
def Margin.Lost (m : Margin) (t : Cursor) : Prop := m.behind ≠ [] ∧ t.Blank

/-- A place that belongs to one of the text, or is lost. -/
theorem Margin.Meets.inside_or_lost {m : Margin} {t c : Cursor} (h : m.Meets t c) :
    c.Inside m ∧ t = c.within m ∨ m.Lost t := by
  by_cases hend : c.rest = []
  · by_cases hbehind : m.behind = []
    · refine .inl ⟨⟨h.solid, .inl hbehind⟩, h.leads.eq_of_rest_eq_nil ?_⟩
      rw [Cursor.rest_within, hend, hbehind]
      rfl
    · exact .inr ⟨hbehind, h.blank hend⟩
  · exact .inl ⟨⟨h.solid, .inr hend⟩, h.eq_within hend⟩

namespace Lexer

variable {α β : Type}

instance lost_of_stays (m : Margin) {f : Lexer α} [hf : ∀ c, Stays c f] :
    Keeps m.Lost (fun _ => True) f :=
  ⟨fun t ht => ((hf t).gives t (.refl t)).mono (fun _ h => ⟨ht.1, ht.2.of_leads h⟩)
    fun _ _ => trivial⟩

/-- What the first reader reads with the blanks around, the second one reads without them, and both
end at the same place of the text. -/
abbrev Tracks (m : Margin) (fits : Cursor → Prop) (c : Cursor) (f g : Lexer α) : Prop :=
  Follows (fun _ => False) (fun t c' => fits c' ∧ t = c'.within m) (c.within m) c f g

/-- A reader that reads nothing where only blanks are left. -/
def NeedsText (f : Lexer α) : Prop :=
  ∀ t : Cursor, t.Blank → ∀ r, f.run t ≠ .ok r

theorem NeedsText.bind {f : Lexer α} (h : NeedsText f) (k : α → Lexer β) : NeedsText (f >>= k) := by
  intro t ht r hrun
  obtain ⟨a, t', hf, -⟩ := exists_of_run_bind hrun
  exact h t ht _ hf

theorem needsText_bind {f : Lexer α} [∀ c, Stays c f] {k : α → Lexer β} (h : ∀ a, NeedsText (k a)) :
    NeedsText (f >>= k) := by
  intro t ht r hrun
  obtain ⟨a, t', hf, hk⟩ := exists_of_run_bind hrun
  exact h a t' (ht.of_leads (leads_of_run f hf)) _ hk

end Lexer

end Yaml

namespace Follows

open Yaml Lexer

variable {α β : Type} {lost : Cursor → Prop}
  {rel : Cursor → Cursor → Prop} {m : Margin} {t c : Cursor} {test : Char → Bool}

theorem fail {g : Lexer α} : Follows lost rel t c Lexer.fail g := throw

theorem fail_bind {k : α → Lexer β} {g : Lexer β} : Follows lost rel t c (Lexer.fail >>= k) g :=
  fun _ _ h => nomatch h

theorem of_needsText {f g : Lexer α} (hf : NeedsText f) (ht : t.Blank) :
    Follows lost rel t c f g := fun _ _ hrun _ => absurd hrun (hf t ht _)

theorem peekAt_bind {k k' : Char → Lexer β} {n : Nat}
    (h : Follows lost rel t c (k (t.peekAt n)) (k' (c.peekAt n))) :
    Follows lost rel t c (peekAt n >>= k) (peekAt n >>= k') := h

theorem peek_bind {k k' : Char → Lexer β} (h : Follows lost rel t c (k t.peek) (k' c.peek)) :
    Follows lost rel t c (peek >>= k) (peek >>= k') := h

/-- A character that has to come next belongs to the text. -/
theorem expect_bind {ch : Char} (hch : ch ≠ endMark) (hgap : isGap ch = false) {f g : Lexer β}
    {k k' : α → Lexer β} (h : 0 < c.rest.length → Follows lost rel (c.within m) c f g) :
    Follows lost rel (c.within m) c (peek >>= fun x => if x ≠ ch then Lexer.fail >>= k else f)
      (peek >>= fun x => if x ≠ ch then Lexer.fail >>= k' else g) := by
  have hsame := Cursor.peek_within_eq_iff (m := m) (c := c) hch hgap
  refine .peek_bind (.guard (mt hsame.mp) (fun _ => .fail_bind) fun hnot => h ?_)
  exact Cursor.length_pos_of_peek (hsame.mp (not_not.mp hnot)) hch

/-- What may only be followed by a space or an end may be followed by the end of the text. -/
theorem spaceOrEnd_bind {f g : Lexer β} {k k' : α → Lexer β}
    (h : Follows lost rel (c.within m) c f g) :
    Follows lost rel (c.within m) c
      (peek >>= fun x => if (!isSpaceOrEnd x) = true then Lexer.fail >>= k else f)
      (peek >>= fun x => if (!isSpaceOrEnd x) = true then Lexer.fail >>= k' else g) := by
  exact .peek_bind (.guard Cursor.not_isSpaceOrEnd_within (fun _ => .fail_bind) fun _ => h)

theorem skip {n : Nat} (hc : c.Solid) (hn : n ≤ c.rest.length)
    (h : rel ((c.advance n).within m) (c.advance n)) :
    Follows lost rel (c.within m) c (Lexer.skip n) (Lexer.skip n) := by
  rw [← Cursor.advance_within hc hn] at h
  rintro _ _ ⟨rfl, rfl⟩ -
  exact ⟨c.advance n, rfl, h⟩

theorem skip_bind {k k' : Unit → Lexer β} {n : Nat} (hc : c.Solid) (hn : n ≤ c.rest.length)
    (h : Follows lost rel ((c.advance n).within m) (c.advance n) (k ()) (k' ())) :
    Follows lost rel (c.within m) c (Lexer.skip n >>= k) (Lexer.skip n >>= k') := by
  rw [← Cursor.advance_within hc hn] at h
  exact h

theorem takeWhile_bind {k k' : Text → Lexer β} (hc : c.Solid)
    (hstop : (∀ t ∈ c.rest, test t = true) → m.behind.takeWhile test = [])
    (h : Follows lost rel ((c.skipWhile test).within m) (c.skipWhile test) (k (c.takeWhile test).1)
      (k' (c.takeWhile test).1)) :
    Follows lost rel (c.within m) c (takeWhile test >>= k) (takeWhile test >>= k') := by
  intro b c₁ hrun hlive
  refine h b c₁ ?_ hlive
  rw [Cursor.skipWhile, ← hrun]
  change _ = (k ((c.within m).takeWhile test).1).run ((c.within m).takeWhile test).2
  rw [Cursor.takeWhile_within hc hstop]

theorem skipWhile_bind {k k' : Unit → Lexer β} (hc : c.Solid)
    (hstop : (∀ t ∈ c.rest, test t = true) → m.behind.takeWhile test = [])
    (h : Follows lost rel ((c.skipWhile test).within m) (c.skipWhile test) (k ()) (k' ())) :
    Follows lost rel (c.within m) c (skipWhile test >>= k) (skipWhile test >>= k') := by
  intro b c₁ hrun hlive
  refine h b c₁ ?_ hlive
  rw [← hrun]
  change _ = (k ()).run ((c.within m).takeWhile test).2
  rw [Cursor.takeWhile_within hc hstop, Cursor.skipWhile]

theorem takeGaps_bind {k k' : Text → Lexer β} (hc : c.Inside m)
    (htest : ∀ t, test t = true → isGap t = true)
    (h : (c.skipWhile test).Inside m → Follows lost rel ((c.skipWhile test).within m)
      (c.skipWhile test) (k (c.takeWhile test).1) (k' (c.takeWhile test).1)) :
    Follows lost rel (c.within m) c (takeWhile test >>= k) (takeWhile test >>= k') :=
  takeWhile_bind hc.solid (hc.takeWhile_behind htest) (h (hc.skipWhile htest))

/-- What is read up to the end of a line goes on behind the text where that has no further line, and
then it is lost. -/
theorem takeLine_bind {k k' : Text → Lexer β} [∀ s, Keeps m.Lost (fun _ => True) (k s)]
    (hc : c.Inside m)
    (h : (c.skipWhile test).Inside m → Follows m.Lost rel ((c.skipWhile test).within m)
      (c.skipWhile test) (k (c.takeWhile test).1) (k' (c.takeWhile test).1)) :
    Follows m.Lost rel (c.within m) c (takeWhile test >>= k) (takeWhile test >>= k') := by
  by_cases hend : (c.skipWhile test).rest = [] ∧ m.behind ≠ []
  · have hmeets := (Margin.Meets.of_within m hc.solid).skipWhile test
    intro b t hrun hlive
    rw [run_takeWhile_bind] at hrun
    exact of_lost ⟨hend.2, hmeets.blank hend.1⟩ b t hrun hlive
  · have hshows : (c.skipWhile test).Shows m := by
      rw [not_and_or, not_not] at hend
      exact hend.symm
    refine takeWhile_bind hc.solid (fun hall => ?_) (h ⟨hc.solid.advance _, hshows⟩)
    rw [hshows.resolve_right (not_not.mpr ?_), List.takeWhile_nil]
    rw [Cursor.skipWhile_eq, List.takeWhile_eq_self_iff.mpr hall, Cursor.rest_advance,
      List.drop_length]

theorem skipGaps_bind {k k' : Unit → Lexer β} (hc : c.Inside m)
    (htest : ∀ t, test t = true → isGap t = true)
    (h : (c.skipWhile test).Inside m →
      Follows lost rel ((c.skipWhile test).within m) (c.skipWhile test) (k ()) (k' ())) :
    Follows lost rel (c.within m) c (skipWhile test >>= k) (skipWhile test >>= k') :=
  skipWhile_bind hc.solid (hc.takeWhile_behind htest) (h (hc.skipWhile htest))

theorem skipWhile_bind_meets {k k' : Unit → Lexer β} (h : m.Meets t c)
    (hk : m.Meets (t.skipWhile test) (c.skipWhile test) →
      Follows lost rel (t.skipWhile test) (c.skipWhile test) (k ()) (k' ())) :
    Follows lost rel t c (skipWhile test >>= k) (skipWhile test >>= k') :=
  hk (h.skipWhile test)

theorem takeBreak_bind {k k' : Text → Lexer β} (hc : c.Inside m)
    (h : c.takeBreak.2.Inside m →
      Follows lost rel (c.takeBreak.2.within m) c.takeBreak.2
        (k c.takeBreak.1) (k' c.takeBreak.1)) :
    Follows lost rel (c.within m) c (takeBreak >>= k) (takeBreak >>= k') := by
  intro b c₁ hrun hlive
  refine h hc.takeBreak.2 b c₁ ?_ hlive
  rw [← hrun]
  change _ = (k (c.within m).takeBreak.1).run (c.within m).takeBreak.2
  rw [hc.takeBreak.1]

/-- What a line end is read as does not matter where only the place behind it is asked for. -/
theorem takeBreak_bind_meets {k : Unit → Lexer β} (h : m.Meets t c)
    (hk : m.Meets t.takeBreak.2 c.takeBreak.2 →
      Follows lost rel t.takeBreak.2 c.takeBreak.2 (k ()) (k ())) :
    Follows lost rel t c (takeBreak >>= fun _ => k ()) (takeBreak >>= fun _ => k ()) :=
  hk h.takeBreak

end Follows

end Scaffold
