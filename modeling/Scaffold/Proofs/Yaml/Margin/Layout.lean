import Scaffold.Proofs.Yaml.Layout
import Scaffold.Proofs.Yaml.Margin.Block
import Scaffold.Proofs.Yaml.Margin.Plain
import Scaffold.Proofs.Yaml.Margin.Quoted
import Scaffold.Proofs.Yaml.Progress

/-!
# Tokens within margins
-/

namespace Scaffold

namespace Yaml

variable {m : Margin} {l : Layout}

/-- The same place of a key in the text with the blanks around it. -/
def PossibleKey.within (m : Margin) (k : PossibleKey) : PossibleKey :=
  { k with index := k.index + m.index, line := k.line + m.line }

/-- The same layout of the text with the blanks around it. -/
def Layout.within (m : Margin) (l : Layout) : Layout :=
  { l with cursor := l.cursor.within m, keys := l.keys.map fun p => (p.1, p.2.within m) }

/-! ### Blocks that end -/

namespace Layout

/-- Of a layout where blocks are closed only the blocks and the tokens are not what they were. -/
theorem exists_close_eq (indent current : Nat) (outer : List Nat) (tokens : List Token) :
    ∃ current' outer' tokens', ∀ l : Layout, closed.close indent l current outer tokens =
      { l with indent := current', outer := outer', tokens := tokens' } := by
  induction outer generalizing current tokens with
  | nil => exact ⟨_, _, _, fun _ => rfl⟩
  | cons o outer ih =>
    simp only [closed.close]
    split
    · exact ih _ _
    · exact ⟨_, _, _, fun _ => rfl⟩

theorem exists_closed_eq (indent : Nat) (l : Layout) :
    ∃ current outer tokens, l.closed indent = { l with indent := current, outer, tokens } := by
  obtain ⟨current, outer, tokens, hclose⟩ := exists_close_eq indent l.indent l.outer l.tokens
  unfold closed
  split
  · exact ⟨_, _, _, hclose l⟩
  · exact ⟨_, _, _, rfl⟩

@[simp] theorem closed_cursor (indent : Nat) (l : Layout) :
    (l.closed indent).cursor = l.cursor := by
  obtain ⟨_, _, _, h⟩ := l.exists_closed_eq indent
  rw [h]

@[simp] theorem closed_flow (indent : Nat) (l : Layout) : (l.closed indent).flow = l.flow := by
  obtain ⟨_, _, _, h⟩ := l.exists_closed_eq indent
  rw [h]

@[simp] theorem closed_keys (indent : Nat) (l : Layout) : (l.closed indent).keys = l.keys := by
  obtain ⟨_, _, _, h⟩ := l.exists_closed_eq indent
  rw [h]

theorem closed_within (m : Margin) (indent : Nat) (l : Layout) :
    (l.within m).closed indent = (l.closed indent).within m := by
  obtain ⟨current, outer, tokens, hclose⟩ := exists_close_eq indent l.indent l.outer l.tokens
  unfold closed
  by_cases hflow : l.flow = 0
  · rw [if_pos hflow, if_pos (show (l.within m).flow = 0 from hflow), hclose l]
    exact hclose (l.within m)
  · rw [if_neg hflow, if_neg (show ¬(l.within m).flow = 0 from hflow)]

end Layout

/-! ### Steps in their place -/

namespace LayoutStep

/-- A step that does the same with and without the blanks, and stays where it is. -/
abbrev Stands {α : Type} (m : Margin) (l : Layout) (f g : LayoutStep α) : Prop :=
  Follows (fun _ => False)
    (fun t l' => (l'.cursor = l.cursor ∧ l'.flow = l.flow) ∧ t = l'.within m) (l.within m) l f g

theorem pushAt_stands (number : Nat) (t : Token) : Stands m l (pushAt number t) (pushAt number t) :=
  .of_run rfl rfl ⟨⟨rfl, rfl⟩, rfl⟩

theorem allowKey_stands (allowed : Bool) : Stands m l (allowKey allowed) (allowKey allowed) :=
  .of_run rfl rfl ⟨⟨rfl, rfl⟩, rfl⟩

theorem closeBlocks_stands (indent : Nat) : Stands m l (closeBlocks indent) (closeBlocks indent) :=
  .of_run rfl rfl ⟨⟨Layout.closed_cursor indent l, Layout.closed_flow indent l⟩,
    Layout.closed_within m indent l⟩

theorem openBlock_stands (column : Nat) (t : Token) (number : Nat) :
    Stands m l (openBlock column t number) (openBlock column t number) := by
  unfold openBlock
  refine .get_bind (.ite Iff.rfl (fun _ => ?_) fun _ => .pure ⟨⟨rfl, rfl⟩, rfl⟩ _)
  exact .set_bind (.of_run rfl rfl ⟨⟨rfl, rfl⟩, rfl⟩)

theorem lookup_within (m : Margin) (keys : List (Nat × PossibleKey)) (flow : Nat) :
    (keys.map fun p => (p.1, p.2.within m)).lookup flow =
      (keys.lookup flow).map (PossibleKey.within m) := by
  induction keys with
  | nil => rfl
  | cons p keys ih =>
    rw [List.map_cons, List.lookup_cons, List.lookup_cons]
    split
    · rfl
    · exact ih

/-- The keys that are left of the shifted ones. -/
theorem filter_within (m : Margin) (keys : List (Nat × PossibleKey)) (flow : Nat) :
    (keys.map fun p => (p.1, p.2.within m)).filter (·.1 ≠ flow) =
      (keys.filter (·.1 ≠ flow)).map fun p => (p.1, p.2.within m) := by
  rw [List.filter_map]
  rfl

theorem dropKey_stands : Stands m l dropKey dropKey := by
  unfold dropKey
  refine .get_bind ?_
  rw [Layout.within, lookup_within]
  dsimp only
  cases l.keys.lookup l.flow with
  | none => exact .pure ⟨⟨rfl, rfl⟩, rfl⟩ _
  | some k =>
    dsimp only [Option.map_some]
    refine .guard id (fun _ => .throw_bind) fun _ => ?_
    rw [filter_within]
    exact .of_run rfl rfl ⟨⟨rfl, rfl⟩, rfl⟩

theorem saveKey_stands : Stands m l saveKey saveKey := by
  unfold saveKey
  refine .get_bind (.ite Iff.rfl (fun _ => .seq dropKey_stands ?_) fun _ =>
    .pure ⟨⟨rfl, rfl⟩, rfl⟩ _)
  rintro _ _ l' - ⟨hl', rfl⟩
  exact .of_run rfl rfl ⟨hl', rfl⟩

theorem isStale_within (m : Margin) (l : Layout) (k : PossibleKey) :
    (l.within m).isStale (k.within m) = l.isStale k := by
  have hline : ((k.within m).line != (l.within m).cursor.line) = (k.line != l.cursor.line) := by
    rw [Bool.eq_iff_iff, bne_iff_ne, bne_iff_ne]
    exact Nat.add_right_cancel_iff.not
  have hindex : (l.within m).cursor.index - (k.within m).index = l.cursor.index - k.index :=
    Nat.add_sub_add_right _ _ _
  rw [Layout.isStale, Layout.isStale, hline, hindex]

theorem dropStaleKeys_stands : Stands m l dropStaleKeys dropStaleKeys := by
  have hany : (l.within m).keys.any (fun p => (l.within m).isStale p.2 && p.2.required) =
      l.keys.any fun p => l.isStale p.2 && p.2.required := by
    rw [show (l.within m).keys = l.keys.map fun p => (p.1, p.2.within m) from rfl, List.any_map]
    simp only [Function.comp_def, isStale_within]
    rfl
  have hfilter : (l.within m).keys.filter (fun p => !(l.within m).isStale p.2) =
      (l.keys.filter fun p => !l.isStale p.2).map fun p => (p.1, p.2.within m) := by
    rw [show (l.within m).keys = l.keys.map fun p => (p.1, p.2.within m) from rfl, List.filter_map]
    simp only [Function.comp_def, isStale_within]
  unfold dropStaleKeys
  refine .get_bind (.guard (by rw [hany]; exact id) (fun _ => .throw_bind) fun _ => ?_)
  rw [hfilter]
  exact .of_run rfl rfl ⟨⟨rfl, rfl⟩, rfl⟩

/-! ### Readers in their place -/

theorem run_lex_of_ok {α : Type} (reader : Lexer α) {a : α} {c : Cursor}
    (h : reader.run l.cursor = .ok (a, c)) :
    (lex reader).run l = .ok (a, { l with cursor := c }) := by
  rw [lex, run_get_bind, h]
  rfl

theorem exists_of_run_lex {α : Type} {reader : Lexer α} {a : α} {l' : Layout}
    (h : (lex reader).run l = .ok (a, l')) :
    ∃ c, reader.run l.cursor = .ok (a, c) ∧ l' = { l with cursor := c } := by
  rw [lex, run_get_bind] at h
  cases hreader : reader.run l.cursor with
  | error e =>
    rw [hreader] at h
    exact nomatch h
  | ok r =>
    rw [hreader] at h
    obtain ⟨rfl, rfl⟩ := h
    exact ⟨r.2, rfl, rfl⟩

end LayoutStep

/-! ### Tokens -/

/-- The layout with the blanks around belongs to the layout without them. Whether a key may begin
does not matter at the end of the text. -/
structure Margin.Pairs (m : Margin) (t l : Layout) : Prop where
  cursor : m.Meets t.cursor l.cursor
  eq_within : t = { l.within m with cursor := t.cursor, keyAllowed := t.keyAllowed }
  keyAllowed : l.cursor.rest ≠ [] → t.keyAllowed = l.keyAllowed

theorem Margin.Pairs.of_within (hl : l.cursor.Solid) : m.Pairs (l.within m) l :=
  ⟨.of_within m hl, rfl, fun _ => rfl⟩

theorem Margin.Pairs.eq_of_ne {t : Layout} (h : m.Pairs t l) (hne : l.cursor.rest ≠ []) :
    t = l.within m := by
  rw [h.eq_within, h.cursor.eq_within hne, h.keyAllowed hne]
  rfl

end Yaml

namespace Follows

open Yaml LayoutStep

variable {α β : Type} {m : Margin} {l : Layout} {c : Cursor}

theorem seq_stands {lost : Layout → Prop} {rel : Layout → Layout → Prop} {f g : LayoutStep α}
    {k k' : α → LayoutStep β} (h : Stands m l f g) (hl : l.cursor = c)
    (hk : ∀ a l', l'.cursor = c → Follows lost rel (l'.within m) l' (k a) (k' a)) :
    Follows lost rel (l.within m) l (f >>= k) (g >>= k') := by
  refine .seq h ?_
  rintro a _ l' - ⟨⟨hl', -⟩, rfl⟩
  exact hk a l' (hl'.trans hl)

/-- Readers that read the same end at places that belong to each other. -/
theorem meets {f g : Lexer α} (h : Lexer.Tracks m Cursor.Solid c f g) :
    Follows (fun _ => False) m.Meets (c.within m) c f g := by
  refine h.mono (fun _ h => h) ?_
  rintro _ c' ⟨hc', rfl⟩
  exact .of_within m hc'

end Follows

namespace Yaml

variable {m : Margin} {l : Layout}

namespace LayoutStep

theorem push_pairs {lost : Layout → Prop} {t : Layout} {n : Nat} (x : Token)
    (h : m.Pairs t l ∧ l.cursor.rest.length < n) :
    Follows lost (fun t l => m.Pairs t l ∧ l.cursor.rest.length < n) t l (push x) (push x) := by
  refine .of_run rfl rfl ⟨⟨h.1.cursor, ?_, h.1.keyAllowed⟩, h.2⟩
  conv_lhs => rw [h.1.eq_within]
  rfl

/-- A step from a place of the text to layouts that belong together, further on. -/
abbrev Pairs {α : Type} (m : Margin) (c : Cursor) (l : Layout) (f g : LayoutStep α) : Prop :=
  Follows (fun _ => False) (fun t l' => m.Pairs t l' ∧ l'.cursor.rest.length < c.rest.length)
    (l.within m) l f g

variable {c : Cursor}

theorem lex_pairs {α : Type} {lost : Cursor → Prop} {reader : Lexer α}
    (h : Follows lost m.Meets (c.within m) c reader reader) (hmoves : Lexer.Moves c reader)
    (hl : l.cursor = c) :
    Follows (fun t => lost t.cursor)
      (fun t l' => m.Pairs t l' ∧ l'.cursor.rest.length < c.rest.length) (l.within m) l (lex reader)
      (lex reader) := by
  subst hl
  intro a t hrun hlive
  obtain ⟨_, hread, rfl⟩ := exists_of_run_lex hrun
  obtain ⟨c', hread', hmeets⟩ := h a _ hread hlive
  exact ⟨_, run_lex_of_ok _ hread', ⟨hmeets, rfl, fun _ => rfl⟩, hmoves a c' hread'⟩

theorem lex_push_pairs {reader : Lexer Token}
    (h : Follows (fun _ => False) m.Meets (c.within m) c reader reader)
    (hmoves : Lexer.Moves c reader) (hl : l.cursor = c) :
    Pairs m c l (do push (← lex reader)) (do push (← lex reader)) :=
  .seq (lex_pairs h hmoves hl) fun x _ _ _ h => push_pairs x h

theorem skip_push_pairs (t : Token) (hc : c.Solid) (hpos : 0 < c.rest.length) (hl : l.cursor = c) :
    Pairs m c l (do lex (Lexer.skip 1); push t) (do lex (Lexer.skip 1); push t) :=
  have hskip : Follows (fun _ => False) m.Meets (c.within m) c (Lexer.skip 1) (Lexer.skip 1) :=
    .skip hc hpos (.of_within m (hc.advance 1))
  .seq (lex_pairs hskip (Lexer.moves_skip hpos) hl) fun _ _ _ _ h => push_pairs t h

theorem openFlow_pairs (t : Token) (hc : c.Solid) (hpos : 0 < c.rest.length) (hl : l.cursor = c) :
    Pairs m c l (openFlow t) (openFlow t) :=
  .seq_stands saveKey_stands hl fun _ l h => .modify_bind (.seq_stands
    (l := { l with flow := l.flow + 1 }) (allowKey_stands true) h fun _ _ h =>
      skip_push_pairs t hc hpos h)

theorem closeFlow_pairs (t : Token) (hc : c.Solid) (hpos : 0 < c.rest.length) (hl : l.cursor = c) :
    Pairs m c l (closeFlow t) (closeFlow t) :=
  .seq_stands dropKey_stands hl fun _ l h => .modify_bind (.seq_stands
    (l := { l with flow := l.flow - 1 }) (allowKey_stands false) h fun _ _ h =>
      skip_push_pairs t hc hpos h)

theorem comma_pairs (hc : c.Solid) (hpos : 0 < c.rest.length) (hl : l.cursor = c) :
    Pairs m c l comma comma :=
  .seq_stands (allowKey_stands true) hl fun _ _ h => .seq_stands dropKey_stands h fun _ _ h =>
    skip_push_pairs .comma hc hpos h

theorem blockIndicator_pairs (collection t : Token) (keyAfterwards : Bool) (hc : c.Solid)
    (hpos : 0 < c.rest.length) (hl : l.cursor = c) :
    Pairs m c l (blockIndicator collection t keyAfterwards)
      (blockIndicator collection t keyAfterwards) := by
  have hrest {l : Layout} (hl : l.cursor = c) : Pairs m c l
      (do allowKey keyAfterwards; dropKey; lex (Lexer.skip 1); push t)
      (do allowKey keyAfterwards; dropKey; lex (Lexer.skip 1); push t) :=
    .seq_stands (allowKey_stands keyAfterwards) hl fun _ _ h =>
      .seq_stands dropKey_stands h fun _ _ h => skip_push_pairs t hc hpos h
  unfold blockIndicator
  refine .get_bind (.ite Iff.rfl (fun _ => ?_) fun _ => hrest hl)
  refine .guard id (fun _ => .throw_bind) fun _ => ?_
  exact .seq_stands (openBlock_stands _ _ _) hl fun _ _ h => hrest h

theorem value_pairs (hc : c.Solid) (hpos : 0 < c.rest.length) (hl : l.cursor = c) :
    Pairs m c l value value := by
  have hrest {l : Layout} (hl : l.cursor = c) : Pairs m c l
      (do allowKey false; lex (Lexer.skip 1); push .value)
      (do allowKey false; lex (Lexer.skip 1); push .value) :=
    .seq_stands (allowKey_stands false) hl fun _ _ h => skip_push_pairs .value hc hpos h
  unfold value
  refine .get_bind ?_
  rw [Layout.within, lookup_within]
  dsimp only
  cases l.keys.lookup l.flow with
  | none => exact blockIndicator_pairs .blockMapping .value (l.flow == 0) hc hpos hl
  | some k =>
    dsimp only [Option.map_some]
    rw [filter_within]
    refine .set_bind (.seq_stands (l := { l with keys := l.keys.filter (·.1 ≠ l.flow) })
      (pushAt_stands k.number .key) hl fun _ _ h => ?_)
    refine .ite Iff.rfl (fun _ => ?_) fun _ => hrest h
    exact .seq_stands (openBlock_stands _ _ _) h fun _ _ h => hrest h

theorem keyCandidate_pairs {reader : Lexer Token}
    (hreader : Lexer.Tracks m Cursor.Solid c reader reader) (hmoves : Lexer.Moves c reader)
    (hl : l.cursor = c) : Pairs m c l (keyCandidate reader) (keyCandidate reader) :=
  .seq_stands saveKey_stands hl fun _ _ h => .seq_stands (allowKey_stands false) h fun _ _ h =>
    lex_push_pairs hreader.meets hmoves h

theorem boundary_pairs {reader : Lexer Token}
    (hreader : Follows (fun _ => False) m.Meets (c.within m) c reader reader)
    (hmoves : Lexer.Moves c reader) (hl : l.cursor = c) :
    Pairs m c l (boundary reader) (boundary reader) :=
  .seq_stands (closeBlocks_stands 0) hl fun _ _ h => .seq_stands dropKey_stands h fun _ _ h =>
    .seq_stands (allowKey_stands false) h fun _ _ h => lex_push_pairs hreader hmoves h

theorem plain_pairs (hl : l.cursor.Solid) (hbegins : beginsPlain (l.flow != 0) l.cursor = true) :
    Pairs m l.cursor l plain plain := by
  unfold plain
  refine .seq saveKey_stands ?_
  rintro _ _ l' - ⟨⟨hcursor, hflow⟩, rfl⟩
  rw [← hcursor] at hl ⊢
  rw [← hflow, ← hcursor] at hbegins
  refine .get_bind ?_
  intro a t hrun _
  obtain ⟨⟨x, broken⟩, t₁, hlex, hrun⟩ := exists_of_run_bind hrun
  obtain ⟨c, hscalar, rfl⟩ := exists_of_run_lex hlex
  obtain ⟨⟨⟨x', broken'⟩, c'⟩, hscalar', rfl, hmeets, hsame⟩ := Lexer.plainScalar_meets hl hscalar
  obtain ⟨rfl, rfl⟩ := hrun
  exact ⟨_, run_bind_of_ok (run_lex_of_ok _ hscalar'), ⟨hmeets, rfl, hsame⟩,
    Lexer.plainScalar_moves hbegins _ _ hscalar'⟩

/-- A block scalar, unless it runs on into the blanks behind the text. -/
theorem block_follows (folded : Bool) (hc : c.Solid) (hpos : 0 < c.rest.length)
    (hl : l.cursor = c) :
    Follows (fun t => m.Lost t.cursor ∧ ¬m.Spares c)
      (fun t l' => m.Pairs t l' ∧ l'.cursor.rest.length < c.rest.length) (l.within m) l
      (block folded) (block folded) := by
  unfold block
  refine .seq_stands (allowKey_stands true) hl fun _ _ h =>
    .seq_stands dropKey_stands h fun _ l h => .get_bind ?_
  have hblock : Follows (fun t => m.Lost t ∧ ¬m.Spares c) m.Meets (c.within m) c
      (Lexer.blockScalar folded l.indent) (Lexer.blockScalar folded l.indent) := by
    by_cases hspares : m.Spares c
    · exact (Lexer.blockScalar_meets folded l.indent hc hpos hspares.1 hspares.2).mono
        (fun _ => False.elim) fun _ _ h => h
    · refine (Lexer.blockScalar_follows folded l.indent hc hpos).mono (fun _ h => ⟨h, hspares⟩) ?_
      rintro _ c ⟨hc, rfl⟩
      exact .of_within m hc.solid
  have hkeeps (x : Token) : Keeps (fun t : Layout => m.Lost t.cursor ∧ ¬m.Spares c)
      (fun _ => True) (push x) := Keeps.modify fun _ h => h
  exact .bind (lex_pairs hblock (Lexer.blockScalar_moves hpos) h) fun x _ _ _ h => push_pairs x h

end LayoutStep

/-! ### What begins at a place -/

theorem beginningAt_within {c : Cursor} (hc : c.Shows m) (flow : Bool) :
    beginningAt flow (c.within m) = beginningAt flow c := by
  unfold beginningAt beginsPlain
  dsimp only
  rw [hc.peek_within, Cursor.column_within, Cursor.apply_peekAt_within Cursor.blind_isGapOrEnd,
    Cursor.atMarker_within (by decide), Cursor.atMarker_within (by decide)]

/-- A block scalar. -/
def Beginning.isBlock : Beginning → Bool
  | .block _ => true
  | _ => false

namespace LayoutStep

/-- **The token of what begins at a place** is read the same without the blanks around the text,
unless it is a block scalar that runs on into them. -/
theorem token_follows {flow : Bool} {b : Beginning} (hl : l.cursor.Solid)
    (hflow : flow = (l.flow != 0)) (hb : beginningAt flow l.cursor = b) (hne : b ≠ .textEnd) :
    Follows (fun t => b.isBlock = true ∧ m.Lost t.cursor ∧ ¬m.Spares l.cursor)
      (fun t l' => m.Pairs t l' ∧ l'.cursor.rest.length < l.cursor.rest.length) (l.within m) l
      (token flow b) (token flow b) := by
  have hpos := length_pos_of_beginningAt (hb.trans_ne hne)
  have hanchor (value : Text → Token) : Pairs m l.cursor l
      (keyCandidate (value <$> Lexer.anchorName)) (keyCandidate (value <$> Lexer.anchorName)) :=
    keyCandidate_pairs (.map (Lexer.anchorName_tracks hl hpos))
      (Lexer.anchorName_moves hpos).map rfl
  have hmark (t : Token) (hthree : 3 ≤ l.cursor.rest.length) :
      Follows (fun _ => False) m.Meets (l.cursor.within m) l.cursor (do Lexer.skip 3; return t)
        (do Lexer.skip 3; return t) :=
    .skip_bind hl hthree (.pure (.of_within m (hl.advance 3)) t)
  have hall {f : LayoutStep Unit} (h : Pairs m l.cursor l f f) :
      Follows (fun t => b.isBlock = true ∧ m.Lost t.cursor ∧ ¬m.Spares l.cursor)
        (fun t l' => m.Pairs t l' ∧ l'.cursor.rest.length < l.cursor.rest.length)
        (l.within m) l f f :=
    h.mono (fun _ => False.elim) fun _ _ h => h
  cases b with
  | textEnd => exact absurd rfl hne
  | setting =>
    exact hall (boundary_pairs (Lexer.setting_follows hl hpos) (Lexer.setting_moves hpos) rfl)
  | marker t =>
    exact hall (boundary_pairs (hmark t (le_length_of_beginningAt hb))
      (Lexer.moves_skip_bind hpos) rfl)
  | opening t => exact hall (openFlow_pairs t hl hpos rfl)
  | closing t => exact hall (closeFlow_pairs t hl hpos rfl)
  | comma => exact hall (comma_pairs hl hpos rfl)
  | entry => exact hall (blockIndicator_pairs _ _ _ hl hpos rfl)
  | key => exact hall (blockIndicator_pairs _ _ _ hl hpos rfl)
  | value => exact hall (value_pairs hl hpos rfl)
  | «alias» => exact hall (hanchor .alias)
  | anchor => exact hall (hanchor .anchor)
  | tag => exact hall (keyCandidate_pairs (Lexer.tag_tracks hl hpos) (Lexer.tag_moves hpos) rfl)
  | block folded =>
    exact (block_follows folded hl hpos rfl).mono (fun _ h => ⟨rfl, h⟩) fun _ _ h => h
  | quoted double =>
    exact hall (keyCandidate_pairs (Lexer.quotedScalar_tracks double hl hpos)
      (Lexer.quotedScalar_moves hpos) rfl)
  | plain => exact hall (plain_pairs hl (hflow ▸ beginsPlain_of_beginningAt hb))
  | unknown => exact .throw

end LayoutStep

end Yaml

end Scaffold
