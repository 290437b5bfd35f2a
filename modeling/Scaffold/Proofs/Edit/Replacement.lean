import Scaffold.Edit.Injection
import Scaffold.Proofs.Pattern.Enumeration

/-!
# Replacing matches

A replacement puts the payload in the place of matches, as it is and without looking at it. Which
parts of the text are replaced is settled before: they are the matches of the pattern, one after the
other, and no payload makes a difference to them. Replacing once replaces the first of them, which
is the match that a search comes to.

## Main definitions

* `Pattern.search?` — the part of a text that a search finds
* `Pattern.replaceParts` — a text with a payload in the place of parts of it

## Main results

* `Pattern.Enumerates.head?_eq` — a search finds the first of the matches
* `Injection.apply_replace` — both kinds of replacement
-/

namespace Scaffold

namespace Pattern

variable {r : Pattern} {s payload : Text} {xs : List Span} {i : Nat}

/-! ### The first match -/

/-- The part of a text that a search for the pattern finds. -/
def search? (r : Pattern) (s : Text) : Option Span :=
  (r.findFrom false [] s 0).map fun (passed, _, q) => ⟨passed.length, q.index⟩

/-- A search finds the first of the matches. -/
theorem Enumerates.head?_eq (h : r.Enumerates s false 0 xs) : xs.head? = r.search? s := by
  have hfind := findFrom_cases r s false (Nat.zero_le s.length)
  rw [List.take_zero, List.reverse_nil, List.drop_zero] at hfind
  rcases hfind with ⟨hnone, hexhausted⟩ | ⟨x, hnext, hsome⟩
  · rw [h.unique (.done hexhausted), search?, hnone]
    rfl
  · have hpassed : (s.extract 0 x.start).length = x.start := by
      rw [List.extract_eq_take_drop, List.drop_zero, Nat.sub_zero, List.length_take,
        Nat.min_eq_left hnext.start_le]
    have hsearch : r.search? s = some x := by
      rw [search?, hsome]
      exact congrArg (fun start => some (Span.mk start x.stop)) hpassed
    cases h with
    | done hexhausted => exact absurd hexhausted hnext.not_isExhausted
    | next hfirst _ => rw [hsearch, hnext.unique hfirst, List.head?_cons]

/-- There is no match where the pattern does not occur. -/
theorem Enumerates.eq_nil_iff (h : r.Enumerates s false 0 xs) : xs = [] ↔ ¬r.Occurs s := by
  refine ⟨fun hnil hoccurs => h.ne_nil_of_occurs hoccurs hnil, fun hnot => ?_⟩
  rw [← isFound_iff_occurs, isFound] at hnot
  rw [← List.head?_eq_none_iff, h.head?_eq, search?, Option.map_eq_none_iff]
  simpa using hnot

/-! ### Parts replaced -/

/-- A text from an index on, with the payload in the place of each of the parts. -/
def replaceParts (s payload : Text) : Nat → List Span → Text
  | i, [] => s.drop i
  | i, x :: xs => s.extract i x.start ++ payload ++ replaceParts s payload x.stop xs

theorem editPieces_piecesAt_const (s payload : Text) (i : Nat) (xs : List Span) :
    editPieces (fun _ => payload) (piecesAt s i xs) = replaceParts s payload i xs := by
  induction xs generalizing i with
  | nil => exact List.append_nil _
  | cons x xs ih =>
    rw [replaceParts, ← ih, List.append_assoc]
    rfl

end Pattern

namespace Injection

open Pattern

/-- **A replacement puts the payload in the place of the matches**, literally. For a pattern and a
text there is one list of matches, ordered and apart from each other, whatever the payload is:
replacing all of them replaces each one in the list, and replacing once replaces the first one,
which is the one that a search finds. Without a match the text stays. -/
theorem apply_replace (r : Pattern) (s : Text) :
    ∃ xs : List Span, (∀ ys, r.Enumerates s false 0 ys ↔ ys = xs) ∧ AreOrdered s 0 xs ∧
      xs.head? = r.search? s ∧ (xs = [] ↔ ¬r.Occurs s) ∧
      ∀ j : Injection,
        (j.placement = some (.replaceAll r) → j.apply s = replaceParts s j.payload 0 xs) ∧
        (j.placement = some (.replace r) → j.apply s = replaceParts s j.payload 0 (xs.take 1)) ∧
        (xs = [] → (j.placement = some (.replaceAll r) ∨ j.placement = some (.replace r)) →
          j.apply s = s) := by
  obtain ⟨xs, hxs⟩ := r.exists_enumerates s
  have hall : ∀ j : Injection, j.placement = some (.replaceAll r) →
      j.apply s = replaceParts s j.payload 0 xs := fun j hj => by
    rw [apply, hj]
    exact (congrArg _ (pieces_of_enumerates hxs)).trans (editPieces_piecesAt_const ..)
  have honce : ∀ j : Injection, j.placement = some (.replace r) →
      j.apply s = replaceParts s j.payload 0 (xs.take 1) := fun j hj => by
    rw [apply, hj]
    exact (congrArg _ (piecesAtFirst_of_enumerates hxs)).trans (editPieces_piecesAt_const ..)
  refine ⟨xs, fun ys => ⟨fun hys => hys.unique hxs, fun h => h ▸ hxs⟩,
    hxs.areOrdered (Nat.zero_le _), hxs.head?_eq, hxs.eq_nil_iff,
    fun j => ⟨hall j, honce j, fun hnil hj => ?_⟩⟩
  rcases hj with hj | hj
  · rw [hall j hj, hnil]
    rfl
  · rw [honce j hj, hnil]
    rfl

end Injection

end Scaffold
