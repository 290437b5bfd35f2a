import Scaffold.Proofs.Yaml.Token
import Scaffold.Yaml.Token.Layout

/-!
# Tokens take up characters

Every token but the last one has a character of its own, so there are no more tokens than characters
and one more.

## Main definitions

* `Yaml.Lexer.Moves` — a reader that goes on by at least one character if it reads something
-/

namespace Scaffold

namespace Yaml

set_option synthInstance.maxSize 10000

/-! ### What begins at a place -/

/-- What gives a value gives it in one of its cases. -/
theorem of_ite_eq {α : Type} {p goal : Prop} [Decidable p] {x y z : α} (hx : p → x = z → goal)
    (hy : y = z → goal) (h : (if p then x else y) = z) : goal := by
  by_cases hp : p
  · exact hx hp ((if_pos hp).symm.trans h)
  · exact hy ((if_neg hp).symm.trans h)

/-- Something begins at a place where something is left. -/
theorem length_pos_of_beginningAt {c : Cursor} {flow : Bool} (h : beginningAt flow c ≠ .textEnd) :
    0 < c.rest.length :=
  Cursor.length_pos_of_peek rfl fun hend => h (by rw [beginningAt, hend]; rfl)

/-- A mark between documents has three characters. -/
theorem le_length_of_beginningAt {c : Cursor} {flow : Bool} {t : Token}
    (h : beginningAt flow c = .marker t) : 3 ≤ c.rest.length := by
  have hmarker (marker : Text) (h : c.atMarker marker = true) : marker.length ≤ c.rest.length :=
    (List.isPrefixOf_iff_prefix.mp (Bool.and_eq_true_iff.mp h).1).length_le
  revert h
  refine of_ite_eq (by nofun) (of_ite_eq (by nofun) (of_ite_eq (fun hstart _ => ?_)
    (of_ite_eq (fun hend _ => ?_) ?_)))
  · exact hmarker ['-', '-', '-'] (Bool.and_eq_true_iff.mp hstart).2
  · exact hmarker ['.', '.', '.'] (Bool.and_eq_true_iff.mp hend).2
  · repeat refine of_ite_eq (by nofun) ?_
    nofun

/-- A plain scalar begins where its characters say so. -/
theorem beginsPlain_of_beginningAt {c : Cursor} {flow : Bool} (h : beginningAt flow c = .plain) :
    beginsPlain flow c = true := by
  revert h
  iterate 19 refine of_ite_eq (fun _ h => nomatch h) ?_
  exact of_ite_eq (fun hplain _ => hplain) nofun

namespace Lexer

variable {α β : Type} {c c' : Cursor}

/-! ### Readers -/

/-- A reader that goes on by at least one character from a place, if it reads something there. -/
def Moves (c : Cursor) (reader : Lexer α) : Prop :=
  ∀ a c', reader.run c = .ok (a, c') → c'.rest.length < c.rest.length

theorem moves_skip_bind {k : Unit → Lexer α} [∀ c, Stays c (k ())] {n : Nat}
    (hpos : 0 < c.rest.length) : Moves c (skip (n + 1) >>= k) := by
  intro a c' hrun
  have hleads : (c.advance (n + 1)).Leads c' := leads_of_run (k ()) hrun
  have hle := hleads.length_le
  rw [Cursor.rest_advance, List.length_drop] at hle
  omega

theorem moves_skip {n : Nat} (hpos : 0 < c.rest.length) : Moves c (skip (n + 1)) :=
  bind_pure (skip (n + 1)) ▸ moves_skip_bind hpos

theorem Moves.map {reader : Lexer α} (h : Moves c reader) {f : α → β} : Moves c (f <$> reader) := by
  rw [← bind_pure_comp]
  intro b c' hrun
  obtain ⟨a, _, hreader, ⟨rfl, rfl⟩⟩ := exists_of_run_bind hrun
  exact h a _ hreader

theorem Moves.bind {reader : Lexer α} {k : α → Lexer β} [∀ a c, Stays c (k a)]
    (h : Moves c reader) : Moves c (reader >>= k) := by
  intro b c'' hrun
  obtain ⟨a, c', hreader, hk⟩ := exists_of_run_bind hrun
  exact Nat.lt_of_le_of_lt (leads_of_run (k a) hk).length_le (h a c' hreader)

theorem setting_moves (hpos : 0 < c.rest.length) : Moves c setting := moves_skip_bind hpos

theorem anchorName_moves (hpos : 0 < c.rest.length) : Moves c anchorName := moves_skip_bind hpos

theorem quotedScalar_moves {double : Bool} (hpos : 0 < c.rest.length) :
    Moves c (quotedScalar double) := moves_skip_bind hpos

theorem blockScalar_moves {folded : Bool} {indent : Nat} (hpos : 0 < c.rest.length) :
    Moves c (blockScalar folded indent) := moves_skip_bind hpos

theorem peek_and_leads_of_tagHandle {handle : Text} {c' : Cursor}
    (h : tagHandle.run c = .ok (handle, c')) : c.peek = '!' ∧ (c.advance 1).Leads c' := by
  unfold tagHandle at h
  rw [run_peek_bind] at h
  split at h
  · exact nomatch h
  · rename_i hmark
    refine ⟨Decidable.of_not_not hmark, leads_of_run (do
      if (← peek) == ' ' then return ['!']
      let name ← takeWhile isNameChar
      if (← peek) ≠ '!' then fail
      skip 1
      return '!' :: name ++ ['!']) h⟩

theorem tagHandle_moves (hpos : 0 < c.rest.length) : Moves c tagHandle := by
  intro a c' hrun
  have hle := (peek_and_leads_of_tagHandle hrun).2.length_le
  rw [Cursor.rest_advance, List.length_drop] at hle
  omega

theorem tag_moves (hpos : 0 < c.rest.length) : Moves c tag := by
  unfold tag
  simp only [pure_bind]
  intro a c' hrun
  rw [run_peekAt_bind] at hrun
  split at hrun
  · exact moves_skip_bind hpos a c' hrun
  split at hrun
  · exact moves_skip_bind hpos a c' hrun
  rw [run_get_bind] at hrun
  split at hrun
  · exact (tagHandle_moves hpos).bind a c' hrun
  · exact moves_skip_bind hpos a c' hrun

/-! ### Plain scalars -/

theorem run_plainRun_of_stops {flow : Bool} (h : stopsPlain flow c = true) (n : Nat) :
    (plainRun flow n).run c = .ok ([], c) := by
  cases n with
  | zero => rfl
  | succ n =>
    rw [plainRun, run_get_bind, if_pos h]
    rfl

theorem stopsPlain_of_isGapOrEnd {flow : Bool} (h : isGapOrEnd c.peek = true) :
    stopsPlain flow c = true := by
  simp [stopsPlain, h]

theorem length_pos_of_not_stops {flow : Bool} (h : ¬stopsPlain flow c = true) :
    0 < c.rest.length :=
  Cursor.length_pos_of_peek rfl fun hend => h (stopsPlain_of_isGapOrEnd (by rw [hend]; rfl))

theorem length_lt_of_plainRun {flow : Bool} {n : Nat} {run : Text} {c' : Cursor}
    (h : (plainRun flow n).run c = .ok (run, c')) (hrun : ¬run.isEmpty = true) :
    c'.rest.length < c.rest.length := by
  by_cases hstop : stopsPlain flow c = true
  · rw [run_plainRun_of_stops hstop] at h
    obtain ⟨rfl, rfl⟩ := h
    exact absurd rfl hrun
  have hpos := length_pos_of_not_stops hstop
  cases n with
  | zero =>
    obtain ⟨rfl, rfl⟩ := h
    exact absurd rfl hrun
  | succ n =>
    rw [plainRun, run_get_bind, if_neg hstop] at h
    have hleads : (c.advance 1).Leads c' := leads_of_run (do return c.peek :: (← plainRun flow n)) h
    have hle := hleads.length_le
    rw [Cursor.rest_advance, List.length_drop] at hle
    omega

/-- A plain scalar does not stop where it begins. -/
theorem not_stopsPlain_of_beginsPlain {flow : Bool} (h : beginsPlain flow c = true) :
    ¬stopsPlain flow c = true ∧ ¬(c.peek == '#') = true := by
  simp only [beginsPlain, Bool.or_eq_true, Bool.and_eq_true, Bool.not_eq_true', beq_iff_eq] at h
  obtain ⟨hgap, hplain⟩ | ⟨hnext, hdash | ⟨hflow, hch⟩⟩ := h
  · have hne (x : Char) (hx : isIndicator x = true) : c.peek ≠ x := fun heq =>
      absurd (hx.symm.trans (heq ▸ hplain)) (by decide)
    simp [stopsPlain, hgap, hne ':' rfl, hne '#' rfl, hne ',' rfl, hne '?' rfl,
      hne '[' rfl, hne ']' rfl, hne '\x7b' rfl, hne '\x7d' rfl]
  · simp [stopsPlain, hdash]
    decide
  · obtain hch | hch := hch <;> simp [stopsPlain, hch, hflow, hnext] <;> decide

theorem plainScalar_moves {flow : Bool} {indent : Nat} (h : beginsPlain flow c = true) :
    Moves c (plainScalar flow indent) := by
  obtain ⟨hstops, hhash⟩ := not_stopsPlain_of_beginsPlain h
  have hpos := length_pos_of_not_stops hstops
  intro a c' hrun
  unfold plainScalar at hrun
  rw [run_get_bind] at hrun
  obtain ⟨a, _, htext, ⟨rfl, rfl⟩⟩ := exists_of_run_bind hrun
  rw [plainText, run_peek_bind, if_neg hhash, run_get_bind] at htext
  obtain ⟨run, c₁, hplain, hrest⟩ := exists_of_run_bind htext
  have hempty : ¬run.isEmpty = true := by
    obtain ⟨n, hn⟩ := Nat.exists_eq_add_one_of_ne_zero (Nat.ne_of_gt hpos)
    rw [hn, plainRun, run_get_bind, if_neg hstops] at hplain
    obtain ⟨-, _, -, hplain⟩ := exists_of_run_bind hplain
    obtain ⟨more, _, -, ⟨rfl, rfl⟩⟩ := exists_of_run_bind hplain
    exact Bool.false_ne_true
  have hlt := length_lt_of_plainRun hplain hempty
  exact Nat.lt_of_le_of_lt (leads_of_run _ hrest).length_le hlt

end Lexer

end Yaml

end Scaffold
