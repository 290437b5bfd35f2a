import Scaffold.Proofs.Yaml.Margin.Layout

/-!
# What separates tokens, within margins
-/

namespace Scaffold

namespace Yaml

variable {m : Margin} {l t : Layout}

namespace LayoutStep

/-- What separates tokens, line by line. -/
theorem run_skipGap_succ (n : Nat) (l : Layout) :
    (skipGap (n + 1)).run l =
      if isBreak l.cursor.skipRemark.peek then
        (skipGap n).run { l with
          cursor := l.cursor.skipRemark.takeBreak.2
          keyAllowed := l.keyAllowed || l.flow == 0 }
      else .ok ((), { l with cursor := l.cursor.skipRemark }) := by
  rw [skipGap, run_bind_of_ok (run_lex_of_ok Lexer.skipRemark rfl),
    run_bind_of_ok (run_lex_of_ok Lexer.peek rfl)]
  by_cases hbreak : isBreak l.cursor.skipRemark.peek = true
  · rw [if_pos hbreak, if_pos hbreak,
      run_bind_of_ok (run_lex_of_ok Lexer.takeBreak rfl), run_get_bind]
    by_cases hflow : l.flow = 0
    · rw [if_pos hflow, hflow, beq_self_eq_true, Bool.or_true]
      rfl
    · rw [if_neg hflow, beq_false_of_ne hflow, Bool.or_false]
      rfl
  · rw [if_neg hbreak, if_neg hbreak]
    rfl

/-- What separates tokens is told of by the place alone, and by whether a key may begin. -/
theorem leads_and_eq_of_run_skipGap {n : Nat} {l' : Layout}
    (h : (skipGap (n + 1)).run l = .ok ((), l')) :
    l.cursor.skipRemark.Leads l'.cursor ∧
      l' = { l with cursor := l'.cursor, keyAllowed := l'.keyAllowed } := by
  induction n generalizing l with
  | zero =>
    rw [run_skipGap_succ] at h
    split at h
    · obtain ⟨-, rfl⟩ := h
      exact ⟨Cursor.leads_takeBreak _, rfl⟩
    · obtain ⟨-, rfl⟩ := h
      exact ⟨.refl _, rfl⟩
  | succ n ih =>
    rw [run_skipGap_succ] at h
    split at h
    · obtain ⟨hleads, heq⟩ := ih h
      exact ⟨((Cursor.leads_takeBreak _).trans (Cursor.leads_skipRemark _)).trans hleads, heq⟩
    · obtain ⟨-, rfl⟩ := h
      exact ⟨.refl _, rfl⟩

/-- What separates the tokens of the text is the same with the blanks around it. Behind the last
token it may take in the blanks there. -/
theorem skipGap_pairs {n₁ n₂ : Nat} (h : m.Pairs t l) (h₁ : l.cursor.rest.length < n₁)
    (h₂ : l.cursor.rest.length < n₂) :
    Follows (fun _ => False) m.Pairs t l (skipGap n₁) (skipGap n₂) := by
  induction n₂ generalizing t l n₁ with
  | zero => exact absurd h₂ (Nat.not_lt_zero _)
  | succ n₂ ih =>
    obtain ⟨n₁, rfl⟩ := Nat.exists_eq_add_one_of_ne_zero (n := n₁) (by omega)
    have hmeets := h.cursor.skipRemark
    rintro ⟨⟩ t' hrun -
    rw [run_skipGap_succ]
    by_cases hend : l.cursor.skipRemark.rest = []
    · obtain ⟨hleads, heq⟩ := leads_and_eq_of_run_skipGap hrun
      have hpeek : l.cursor.skipRemark.peek = endMark := by
        rw [Cursor.peek, hend, List.headD_nil]
      rw [hpeek, if_neg (by decide)]
      refine ⟨_, rfl, ⟨hmeets.solid, hmeets.leads.trans hleads, fun hne => absurd hend hne⟩, ?_,
        fun hne => absurd hend hne⟩
      rw [heq, h.eq_within]
      rfl
    · have hin : l.cursor.skipRemark.Inside m := ⟨hmeets.solid, .inr hend⟩
      have hne : l.cursor.rest ≠ [] := fun hnil =>
        hend (List.suffix_nil.mp (hnil ▸ l.cursor.leads_skipRemark.suffix))
      rw [run_skipGap_succ, hmeets.eq_within hend, hin.shows.peek_within, hin.takeBreak.1] at hrun
      split at hrun
      · rename_i hbreak
        rw [if_pos hbreak]
        have hlt := Cursor.length_takeBreak_lt hbreak
        have hle := l.cursor.leads_skipRemark.length_le
        refine ih ?_ (by dsimp only; omega) (by dsimp only; omega) () t' hrun id
        rw [h.eq_of_ne hne]
        exact .of_within (l := { l with
          cursor := l.cursor.skipRemark.takeBreak.2
          keyAllowed := l.keyAllowed || l.flow == 0 }) hin.takeBreak.2.solid
      · rename_i hbreak
        obtain ⟨-, rfl⟩ := hrun
        rw [if_neg hbreak, h.eq_of_ne hne]
        exact ⟨_, rfl, .of_within (l := { l with cursor := l.cursor.skipRemark }) hin.solid⟩

theorem run_arrive (l : Layout) :
    arrive.run l =
      if l.cursor.index = 0 ∧ l.cursor.peek.toNat = 0xFEFF then
        (skipGap ((l.cursor.advance 1).rest.length + 1)).run { l with cursor := l.cursor.advance 1 }
      else (skipGap (l.cursor.rest.length + 1)).run l := by
  rw [arrive, run_get_bind, run_bind_of_ok (run_lex_of_ok Lexer.peek rfl),
    ← Bool.decide_and]
  by_cases hmarked : l.cursor.index = 0 ∧ l.cursor.peek.toNat = 0xFEFF
  · rw [if_pos hmarked, if_pos (decide_eq_true hmarked)]
    rfl
  · rw [if_neg hmarked, if_neg (by rw [decide_eq_true_iff]; exact hmarked)]
    rfl

theorem leads_of_run_arrive {l' : Layout} (h : arrive.run l = .ok ((), l')) :
    l.cursor.Leads l'.cursor := by
  rw [run_arrive] at h
  split at h
  · refine (l.cursor.leads_advance 1).trans ?_
    exact (Cursor.leads_skipRemark _).trans (leads_and_eq_of_run_skipGap h).1
  · exact (Cursor.leads_skipRemark _).trans (leads_and_eq_of_run_skipGap h).1

/-- **The way to the next token** is the same with the blanks around the text, unless a byte order
mark at its beginning is none with blanks in front of it. -/
theorem arrive_pairs (h : m.Pairs t l)
    (hmark : m.index = 0 ∨ (l.cursor.index = 0 → l.cursor.peek.toNat ≠ 0xFEFF)) :
    Follows (fun _ => False) m.Pairs t l arrive arrive := by
  have hgap {t l : Layout} (h : m.Pairs t l) : Follows (fun _ => False) m.Pairs t l
      (skipGap (t.cursor.rest.length + 1)) (skipGap (l.cursor.rest.length + 1)) := by
    refine skipGap_pairs h (Nat.lt_succ_of_le ?_) (Nat.lt_succ_self _)
    by_cases hend : l.cursor.rest = []
    · rw [hend]
      exact Nat.zero_le _
    · rw [h.cursor.eq_within hend, Cursor.rest_within, List.length_append]
      exact Nat.le_add_right _ _
  have hpeek : decide (t.cursor.peek.toNat = 0xFEFF) = decide (l.cursor.peek.toNat = 0xFEFF) :=
    h.cursor.apply_peek (f := fun x => decide (x.toNat = 0xFEFF)) (blind_of_map_eq rfl)
  have hne (hbom : l.cursor.peek.toNat = 0xFEFF) : l.cursor.rest ≠ [] := fun hnil => by
    rw [Cursor.peek, hnil] at hbom
    exact absurd hbom (by decide)
  intro a t' hrun _
  rw [run_arrive] at hrun ⊢
  by_cases hmarked : l.cursor.index = 0 ∧ l.cursor.peek.toNat = 0xFEFF
  · obtain rfl := h.eq_of_ne (hne hmarked.2)
    have hindex := hmark.resolve_right fun hmark => hmark hmarked.1 hmarked.2
    have hpos := List.length_pos_iff.mpr (hne hmarked.2)
    have hmarked' : (l.within m).cursor.index = 0 ∧ (l.within m).cursor.peek.toNat = 0xFEFF :=
      ⟨by rw [Layout.within, Cursor.within, hmarked.1, hindex], by simpa [hmarked.2] using hpeek⟩
    rw [if_pos hmarked'] at hrun
    rw [if_pos hmarked]
    rw [show (l.within m).cursor.advance 1 = (l.cursor.advance 1).within m from
      Cursor.advance_within h.cursor.solid hpos] at hrun
    exact hgap (.of_within (l := { l with cursor := l.cursor.advance 1 })
      (h.cursor.solid.advance 1))
      a t' hrun id
  · have hmarked' : ¬(t.cursor.index = 0 ∧ t.cursor.peek.toNat = 0xFEFF) := by
      rintro ⟨hindex, hbom⟩
      have hbom' : l.cursor.peek.toNat = 0xFEFF := by simpa [hbom] using hpeek
      rw [h.cursor.eq_within (hne hbom')] at hindex
      exact hmarked ⟨Nat.eq_zero_of_add_eq_zero_right hindex, hbom'⟩
    rw [if_neg hmarked'] at hrun
    rw [if_neg hmarked]
    exact hgap h a t' hrun id

end LayoutStep

/-! ### Blanks in front of the text -/

namespace Cursor

variable {c : Cursor}

/-- Behind a line end a line begins. -/
theorem column_takeBreak (h : isBreak c.peek = true) : c.takeBreak.2.column = 0 := by
  have hnext (hpair : (c.peek == '\r' && c.peekAt 1 == '\n') = false) : c.next.column = 0 := by
    obtain ⟨_ | ⟨x, rest⟩, index, line, column⟩ := c
    · exact absurd (show isBreak endMark = true from h) (by decide)
    · have hbreaks : (isBreak x && !(x == '\r' && rest.headD endMark == '\n')) = true := by
        rw [show isBreak x = true from h,
          show (x == '\r' && rest.headD endMark == '\n') = false from hpair]
        rfl
      simp only [next, hbreaks, ↓reduceIte]
  unfold takeBreak
  dsimp only
  rw [if_neg (by simp [h])]
  split
  · rename_i hpair
    obtain ⟨hreturn, hfeed⟩ := Bool.and_eq_true_iff.mp hpair
    obtain ⟨more, hrest⟩ :=
      rest_eq_of_peek (beq_iff_eq.mp hreturn) (beq_iff_eq.mp hfeed) (by decide) (by decide)
    obtain ⟨rest, index, line, column⟩ := c
    obtain rfl : rest = '\r' :: '\n' :: more := hrest
    rfl
  · rename_i hpair
    split <;> exact hnext (Bool.eq_false_iff.mpr hpair)


/-- A row of blanks that ends with a line end has a line end or a tab behind its spaces. -/
theorem skipRemark_of_gaps {front s : Text} (hrest : c.rest = front ++ s) (hne : front ≠ [])
    (hfront : ∀ x ∈ front, isGap x = true) (hlast : ∀ x ∈ front.getLast?, isBreak x = true) :
    ∃ x more, c.skipRemark.rest = x :: more ++ s ∧ x :: more <:+ front ∧
      (x = '\t' ∨ isBreak x = true) := by
  have hbreak := hlast _ (List.getLast?_eq_some_getLast hne)
  have hsome : (front.find? (· != ' ')).isSome = true := by
    refine List.find?_isSome.mpr ⟨_, List.getLast_mem hne, bne_iff_ne.mpr fun hspace => ?_⟩
    rw [hspace] at hbreak
    exact absurd hbreak (by decide)
  obtain ⟨x, hfind⟩ := Option.isSome_iff_exists.mp hsome
  obtain ⟨hx, spaces, more, rfl, hspaces⟩ := List.find?_eq_some_iff_append.mp hfind
  have hgap : isGap x = true := hfront x (by simp)
  have htaken : c.rest.takeWhile (· == ' ') = spaces := by
    rw [hrest, List.append_assoc, List.takeWhile_append_of_pos (by simpa using hspaces),
      List.cons_append, List.takeWhile_cons_of_neg (by simpa using hx), List.append_nil]
  have hskip : (c.skipWhile (· == ' ')).rest = x :: more ++ s := by
    rw [skipWhile_eq, rest_advance, htaken, hrest, List.append_assoc, List.drop_left]
  have hremark : c.skipRemark = c.skipWhile (· == ' ') := by
    have hpeek : (c.skipWhile (· == ' ')).peek = x := by rw [peek, hskip]; rfl
    unfold skipRemark
    dsimp only
    rw [hpeek, if_neg]
    rintro hhash
    rw [beq_iff_eq.mp hhash] at hgap
    exact absurd hgap (by decide)
  refine ⟨x, more, by rw [hremark, hskip], List.suffix_append _ _, ?_⟩
  simpa [isGap, show ¬x = ' ' by simpa using hx] using hgap

/-- Behind a line end among blanks the row goes on. -/
theorem rest_takeBreak_of_gaps {x : Char} {more s : Text} (hrest : c.rest = x :: more ++ s)
    (hx : isBreak x = true) (hs : ∀ x ∈ s.head?, isGap x = false) :
    ∃ more', c.takeBreak.2.rest = more' ++ s ∧ more' <:+ more := by
  have hpeek : c.peek = x := by rw [peek, hrest]; rfl
  have hnext : c.next.rest = more ++ s := by rw [rest_next, hrest]; rfl
  unfold takeBreak
  dsimp only
  rw [hpeek, if_neg (by simp [hx])]
  split
  · rename_i hpair
    have hfeed : c.peekAt 1 = '\n' := beq_iff_eq.mp (Bool.and_eq_true_iff.mp hpair).2
    rw [peekAt, hrest, List.cons_append, List.drop_succ_cons, List.drop_zero] at hfeed
    cases more with
    | nil =>
      cases s with
      | nil => exact absurd hfeed (by decide)
      | cons y s =>
        obtain rfl : y = '\n' := hfeed
        exact absurd (hs '\n' rfl) (by decide)
    | cons y more =>
      exact ⟨more, by rw [rest_advance, hrest]; rfl, List.suffix_cons _ _⟩
  · split <;> exact ⟨more, hnext, List.suffix_refl _⟩

end Cursor

namespace LayoutStep

/-- Blanks that end with a line end are passed line by line, up to the first character of the text.
A tab is not passed. -/
theorem run_skipGap_of_gaps {n : Nat} {front s : Text} {l' : Layout}
    (hfront : ∀ x ∈ front, isGap x = true) (hlast : ∀ x ∈ front.getLast?, isBreak x = true)
    (hs : ∀ x ∈ s.head?, isGap x = false) (hrest : l.cursor.rest = front ++ s)
    (hcolumn : l.cursor.column = 0) (hkey : l.keyAllowed = true)
    (hn : l.cursor.rest.length < n) (hrun : (skipGap n).run l = .ok ((), l')) :
    l'.cursor.peek = '\t' ∨ ∃ n' line, s.length < n' ∧
      (skipGap n').run { l with cursor := ⟨s, l.cursor.index + front.length, line, 0⟩ } =
        .ok ((), l') := by
  induction n generalizing l front with
  | zero => exact absurd hn (Nat.not_lt_zero _)
  | succ n ih =>
    by_cases hne : front = []
    · obtain ⟨⟨rest, index, line, column⟩, tokens, flow, indent, outer, keyAllowed, keys⟩ := l
      obtain rfl : rest = s := by simpa [hne] using hrest
      obtain rfl : column = 0 := hcolumn
      obtain rfl : front = [] := hne
      exact .inr ⟨n + 1, line, hn, hrun⟩
    obtain ⟨x, more, hremark, hsuffix, hx⟩ := Cursor.skipRemark_of_gaps hrest hne hfront hlast
    have hpeek : l.cursor.skipRemark.peek = x := by rw [Cursor.peek, hremark]; rfl
    rw [run_skipGap_succ, hpeek] at hrun
    obtain rfl | hbreak := hx
    · obtain ⟨-, rfl⟩ := hrun
      exact .inl hpeek
    rw [if_pos hbreak] at hrun
    obtain ⟨more', hrest', hsuffix'⟩ := Cursor.rest_takeBreak_of_gaps hremark hbreak hs
    have hfront' : more' <:+ front := hsuffix'.trans ((List.suffix_cons x more).trans hsuffix)
    have hleads := l.cursor.leads_skipRemark.trans l.cursor.skipRemark.leads_takeBreak
    have hindex := hleads.index_add_length
    have hlt := Cursor.length_takeBreak_lt (c := l.cursor.skipRemark) (by rw [hpeek]; exact hbreak)
    have hle := l.cursor.leads_skipRemark.length_le
    have hlast' : ∀ x ∈ more'.getLast?, isBreak x = true := fun x hx => by
      obtain ⟨p, hp⟩ := hfront'
      exact hlast x (hp ▸ List.mem_getLast?_append_of_mem_getLast? hx)
    obtain htab | ⟨n', line, hn', hrun'⟩ := ih (fun x hx => hfront x (hfront'.subset hx)) hlast'
      hrest' (Cursor.column_takeBreak (by rwa [hpeek])) (by simp [hkey]) (by dsimp only; omega) hrun
    · exact .inl htab
    · refine .inr ⟨n', line, hn', ?_⟩
      rw [hrest', hrest, List.length_append, List.length_append] at hindex
      have hindex : l.cursor.skipRemark.takeBreak.2.index + more'.length =
          l.cursor.index + front.length := by omega
      rw [← hrun', ← hindex, hkey]
      rfl

/-- **The way to the first token** leads past blanks in front of the text that end with a line
end. -/
theorem arrive_of_gaps {front s behind : Text} (hfront : ∀ x ∈ front, isGap x = true)
    (hlast : ∀ x ∈ front.getLast?, isBreak x = true) (hbehind : ∀ x ∈ behind, isGap x = true)
    (hhead : ∀ x ∈ (s ++ behind).head?, isGap x = false) (hsolid : (Cursor.start s).Solid)
    (hbom : front = [] ∨ (Cursor.start s).peek.toNat ≠ 0xFEFF)
    (hrun : arrive.run (Layout.start (front ++ (s ++ behind))) = .ok ((), t)) :
    isGap t.cursor.peek = true ∨
      ∃ (m : Margin) (l : Layout), m.behind = behind ∧ arrive.run (Layout.start s) = .ok ((), l) ∧
        m.Pairs t l := by
  by_cases hnil : front = []
  · obtain rfl := hnil
    obtain ⟨l, hl⟩ := arrive_pairs (m := ⟨behind, 0, 0, hbehind⟩) (l := .start s)
      (.of_within hsolid)
      (.inl rfl) () t hrun id
    exact .inr ⟨_, l, rfl, hl⟩
  · have hbom := hbom.resolve_left hnil
    have hpeek : isGap (Layout.start (front ++ (s ++ behind))).cursor.peek = true := by
      cases front with
      | nil => exact absurd rfl hnil
      | cons x front => exact hfront x List.mem_cons_self
    have hmark : ∀ x, isGap x = true → (x.toNat == 0xFEFF) = false :=
      eq_false_of_isGap (by decide)
    rw [run_arrive, if_neg fun h => beq_eq_false_iff_ne.mp (hmark _ hpeek) h.2] at hrun
    rw [run_arrive, if_neg fun h => hbom h.2]
    obtain htab | ⟨n, line, hn, hrun⟩ :=
      run_skipGap_of_gaps hfront hlast hhead rfl rfl rfl (Nat.lt_succ_self _) hrun
    · exact .inl (htab ▸ rfl)
    · rw [← Nat.zero_add line] at hrun
      obtain ⟨l, hl⟩ := skipGap_pairs (m := ⟨behind, front.length, line, hbehind⟩) (l := .start s)
        (.of_within hsolid) (Nat.lt_of_le_of_lt (List.length_append ▸ Nat.le_add_right _ _) hn)
        (Nat.lt_succ_self _) () t hrun id
      exact .inr ⟨_, l, rfl, hl⟩

end LayoutStep

end Yaml

end Scaffold
