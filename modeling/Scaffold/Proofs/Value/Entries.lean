import Scaffold.Value.Basic

/-!
# Entries under names

Two texts are the same key only if they are the same text, and no other value is the same key as a
text. So what is found under a name is an entry with that name, and putting a value under a name
changes nothing under others.

## Main results

* `Value.mem_of_lookup?`, `Value.lookup?_eq_none_iff` — what is found under a name
* `Value.lookup?_insert_self`, `Value.lookup?_insert_of_ne` — what is found after a value was put
-/

namespace Scaffold

namespace Value

variable {s : Text} {k v : Value} {es : List (Value × Value)}

theorem sameScalar_text_right_iff : v.sameScalar (.text s) = true ↔ v = .text s := by
  cases v <;> simp [sameScalar, integer?]

theorem text_sameScalar_iff : (text s).sameScalar v = true ↔ .text s = v := by
  cases v <;> simp [sameScalar, integer?]

/-! ### Looking up -/

theorem mem_of_lookup? (h : lookup? (.text s) es = some v) : (.text s, v) ∈ es := by
  induction es with
  | nil => exact nomatch h
  | cons entry rest ih =>
    obtain ⟨k, w⟩ := entry
    rw [lookup?] at h
    split at h
    · rename_i hk
      rw [sameScalar_text_right_iff.mp hk, Option.some.inj h]
      exact List.mem_cons_self
    · exact List.mem_cons_of_mem _ (ih h)

theorem lookup?_eq_none_iff : lookup? (.text s) es = none ↔ ∀ e ∈ es, e.1 ≠ .text s := by
  induction es with
  | nil => simp [lookup?]
  | cons entry rest ih =>
    obtain ⟨k, w⟩ := entry
    rw [lookup?, List.forall_mem_cons, ← ih]
    split
    · rename_i hk
      simp [sameScalar_text_right_iff.mp hk]
    · rename_i hk
      simp [mt sameScalar_text_right_iff.mpr hk]

/-! ### Putting -/

theorem lookup?_insert_self (s : Text) (new : Value) (es : List (Value × Value)) :
    lookup? (.text s) (insert (.text s) new es) = some new := by
  induction es with
  | nil => simp [insert, lookup?, text_sameScalar_iff]
  | cons entry rest ih =>
    obtain ⟨k, v⟩ := entry
    rw [insert]
    split
    · rename_i hk
      rw [lookup?, if_pos hk]
    · rename_i hk
      rw [lookup?, if_neg hk, ih]

theorem lookup?_insert_of_ne (h : k ≠ .text s) (new : Value) (es : List (Value × Value)) :
    lookup? k (insert (.text s) new es) = lookup? k es := by
  have hnot : (text s).sameScalar k ≠ true := fun hsame =>
    h (text_sameScalar_iff.mp hsame).symm
  induction es with
  | nil => simp [insert, lookup?, hnot]
  | cons entry rest ih =>
    obtain ⟨k', v⟩ := entry
    rw [insert]
    split
    · rename_i hk
      obtain rfl := sameScalar_text_right_iff.mp hk
      rw [lookup?, lookup?, if_neg hnot, if_neg hnot]
    · rw [lookup?, lookup?, ih]

end Value

end Scaffold
