import Scaffold.Yaml.Cursor

/-!
# Going on in a text

A reader of characters changes its place in one way only: it goes on by some number of characters.
So what is left of the text is the end of what was left before, and the index and the line only
grow.

## Main definitions

* `Yaml.Cursor.Leads` — from one place to another by going on
-/

namespace Scaffold

namespace Yaml

namespace Cursor

variable {c c' c'' : Cursor}

/-- The second place is the first one, or further on. -/
def Leads (c c' : Cursor) : Prop := ∃ n, c' = c.advance n

theorem rest_next (c : Cursor) : c.next.rest = c.rest.tail := by
  unfold next
  split <;> simp_all

theorem rest_advance (n : Nat) (c : Cursor) : (c.advance n).rest = c.rest.drop n := by
  induction n generalizing c with
  | zero => rfl
  | succ n ih => rw [advance, ih, rest_next, List.drop_tail]

theorem advance_add (c : Cursor) (n k : Nat) : c.advance (n + k) = (c.advance n).advance k := by
  induction n generalizing c with
  | zero => rw [Nat.zero_add, advance]
  | succ n ih => rw [Nat.succ_add, advance, advance, ih]

/-- What is seen in the text is left of it. -/
theorem length_pos_of_peek {ch : Char} (h : c.peek = ch) (hch : ch ≠ endMark) :
    0 < c.rest.length := by
  refine List.length_pos_iff.mpr fun hnil => hch ?_
  rw [← h, peek, hnil, List.headD_nil]

theorem Leads.refl (c : Cursor) : c.Leads c := ⟨0, rfl⟩

theorem leads_advance (c : Cursor) (n : Nat) : c.Leads (c.advance n) := ⟨n, rfl⟩

theorem leads_skipWhile (c : Cursor) (test : Char → Bool) : c.Leads (c.skipWhile test) := ⟨_, rfl⟩

theorem Leads.trans (h : c.Leads c') (h' : c'.Leads c'') : c.Leads c'' := by
  obtain ⟨n, rfl⟩ := h
  obtain ⟨k, rfl⟩ := h'
  exact ⟨n + k, (c.advance_add n k).symm⟩

theorem Leads.suffix (h : c.Leads c') : c'.rest <:+ c.rest := by
  obtain ⟨n, rfl⟩ := h
  rw [rest_advance]
  exact List.drop_suffix n c.rest

theorem Leads.length_le (h : c.Leads c') : c'.rest.length ≤ c.rest.length := h.suffix.length_le

/-- At the end of the text one cannot go on. -/
theorem Leads.eq_of_rest_eq_nil (h : c.Leads c') (hend : c.rest = []) : c' = c := by
  obtain ⟨n, rfl⟩ := h
  induction n with
  | zero => rfl
  | succ n ih =>
    have hnext : c.next = c := by
      unfold next
      rw [hend]
    rw [advance, hnext, ih]

theorem line_le_next (c : Cursor) : c.line ≤ c.next.line := by
  unfold next
  split
  · exact Nat.le_refl _
  · dsimp only
    split <;> omega

theorem Leads.line_le (h : c.Leads c') : c.line ≤ c'.line := by
  obtain ⟨n, rfl⟩ := h
  induction n generalizing c with
  | zero => exact Nat.le_refl _
  | succ n ih => exact Nat.le_trans (line_le_next c) ih

/-- The index counts the characters that one has gone past. -/
theorem Leads.index_add_length (h : c.Leads c') :
    c'.index + c'.rest.length = c.index + c.rest.length := by
  obtain ⟨n, rfl⟩ := h
  induction n generalizing c with
  | zero => rfl
  | succ n ih =>
    rw [advance, ih]
    unfold next
    split
    · rfl
    · rename_i hrest
      rw [hrest, List.length_cons]
      dsimp only
      omega

theorem Leads.index_le (h : c.Leads c') : c.index ≤ c'.index := by
  have hindex := h.index_add_length
  have hlength := h.length_le
  omega

theorem leads_skipRemark (c : Cursor) : c.Leads c.skipRemark := by
  unfold skipRemark
  dsimp only
  split
  · exact (c.leads_skipWhile _).trans (leads_skipWhile _ _)
  · exact c.leads_skipWhile _

theorem leads_takeBreak (c : Cursor) : c.Leads c.takeBreak.2 := by
  unfold takeBreak
  dsimp only
  split
  · exact .refl c
  · split
    · exact c.leads_advance 2
    · split <;> exact c.leads_advance 1

end Cursor

end Yaml

end Scaffold
