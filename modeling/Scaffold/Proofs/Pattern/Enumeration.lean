import Mathlib.Data.List.Basic
import Scaffold.Proofs.Pattern.Search

/-!
# The matches of a text, one after the other

Where a pattern is found in a text is told by indices. A search goes on from an index and takes the
match that begins first; the next search goes on where that match ends. A match that took nothing
is followed by another one at the same index only if that one takes something, so that the
enumeration moves on and ends.

`Enumerates` says this in terms of single matches alone, without pieces and without a bound on
their number. There is one enumeration for every text, and the pieces of the text are cut at it: the
bound that the cut runs on is never reached.

## Main definitions

* `Pattern.matchEnd?` — where the match at an index ends
* `Pattern.IsNext` — the match that a search comes to
* `Pattern.Enumerates` — the matches from an index on

## Main results

* `Pattern.isFound_iff_occurs` — a pattern is found where it matches at an index
* `Pattern.exists_enumerates`, `Pattern.Enumerates.unique` — there is one enumeration
* `Pattern.pieces_of_enumerates`, `Pattern.piecesAtFirst_of_enumerates` — the pieces are cut at it
-/

namespace Scaffold

namespace Pattern

variable {r : Pattern} {nonempty : Bool} {s taken passed : Text} {i j : Nat} {p q : Place}

/-! ### Places by index -/

/-- The place at an index of a text. -/
def Place.ofIndex (s : Text) (i : Nat) : Place := ⟨(s.take i).reverse, s.drop i, i, []⟩

/-- Where the match at an index of a text ends, if the pattern matches there. -/
def matchEnd? (r : Pattern) (s : Text) (nonempty : Bool) (i : Nat) : Option Nat :=
  (r.matchAt nonempty (.ofIndex s i)).map fun x => x.2.index

/-- The pattern matches at some index of the text. -/
def Occurs (r : Pattern) (s : Text) : Prop := ∃ i ≤ s.length, (r.matchEnd? s false i).isSome

/-- A part of a text, from one index up to another. -/
structure Span where
  start : Nat
  stop : Nat
deriving DecidableEq, Repr

/-- What stands in a part of a text. -/
def Span.textIn (x : Span) (s : Text) : Text := s.extract x.start x.stop

/-! ### One search after the other -/

/-- The match that a search from an index on comes to: no match begins before it. Only a match right
at the index where the search begins may be asked to take something. -/
structure IsNext (r : Pattern) (s : Text) (nonempty : Bool) (i : Nat) (x : Span) : Prop where
  le_start : i ≤ x.start
  start_le : x.start ≤ s.length
  matchEnd?_start : r.matchEnd? s (nonempty && x.start == i) x.start = some x.stop
  leftmost : ∀ k, i ≤ k → k < x.start → r.matchEnd? s (nonempty && k == i) k = none

/-- A search from an index on comes to no match. -/
def IsExhausted (r : Pattern) (s : Text) (nonempty : Bool) (i : Nat) : Prop :=
  ∀ k, i ≤ k → k ≤ s.length → r.matchEnd? s (nonempty && k == i) k = none

/-- The matches in a text from an index on. Each is searched for from the end of the one before, and
has to take something at that end if the one before took nothing. -/
inductive Enumerates (r : Pattern) (s : Text) : (nonempty : Bool) → Nat → List Span → Prop
  | done {nonempty : Bool} {i : Nat} (h : r.IsExhausted s nonempty i) :
    Enumerates r s nonempty i []
  | next {nonempty : Bool} {i : Nat} {x : Span} {xs : List Span} (h : r.IsNext s nonempty i x)
    (hrest : Enumerates r s (x.start == x.stop) x.stop xs) : Enumerates r s nonempty i (x :: xs)

/-- Parts that follow one another in a text, from an index on. -/
def AreOrdered (s : Text) : Nat → List Span → Prop
  | i, [] => i ≤ s.length
  | i, x :: xs => i ≤ x.start ∧ x.start ≤ x.stop ∧ AreOrdered s x.stop xs

/-- A text from an index on, cut at the parts of it. -/
def piecesAt (s : Text) : Nat → List Span → List Piece
  | i, [] => [.kept (s.drop i)]
  | i, x :: xs => .kept (s.extract i x.start) :: .found (x.textIn s) :: piecesAt s x.stop xs

/-! ### A match at an index -/

/-- What was taken at an index is read from the text there. -/
theorem exists_of_matchAt (hi : i ≤ s.length)
    (h : r.matchAt nonempty (.ofIndex s i) = some (taken, q)) :
    ∃ j, i ≤ j ∧ j ≤ s.length ∧ r.matchEnd? s nonempty i = some j ∧
      taken = s.extract i j ∧ q = .ofIndex s j := by
  have hreads := matchAt_reads h
  have hcaptures : q.captures = [] := by
    obtain ⟨q', -, heq⟩ := Option.map_eq_some_iff.mp h
    exact (congrArg (fun x => x.2.captures) heq).symm
  have hafter : s.drop i = taken ++ q.after := hreads.after
  have hlength : i + taken.length ≤ s.length := by
    have hdrop := congrArg List.length hafter
    rw [List.length_drop, List.length_append] at hdrop
    omega
  refine ⟨i + taken.length, Nat.le_add_right _ _, hlength, ?_, ?_, ?_⟩
  · rw [matchEnd?, h]
    exact congrArg some hreads.index
  · rw [List.extract_eq_take_drop, hafter, Nat.add_sub_cancel_left, List.take_left]
  · have hbefore : q.before = (s.take (i + taken.length)).reverse := by
      rw [hreads.before, List.take_add, hafter, List.take_left, List.reverse_append]
      rfl
    have hrest : q.after = s.drop (i + taken.length) := by
      rw [← List.drop_drop, hafter, List.drop_left]
    obtain ⟨before, after, index, captures⟩ := q
    simp only at hbefore hrest hcaptures
    rw [Place.ofIndex, hbefore, hrest, hcaptures]
    exact congrArg (fun n => Place.mk _ _ n _) hreads.index

theorem matchEnd?_bounds (hi : i ≤ s.length) (h : r.matchEnd? s nonempty i = some j) :
    i ≤ j ∧ j ≤ s.length := by
  obtain ⟨⟨taken, q⟩, hmatch, rfl⟩ := Option.map_eq_some_iff.mp h
  obtain ⟨j, hle, hlength, hend, -, rfl⟩ := exists_of_matchAt hi hmatch
  exact ⟨hle, hlength⟩

/-- A match that has to take something does. -/
theorem lt_of_matchEnd?_true (hi : i ≤ s.length) (h : r.matchEnd? s true i = some j) : i < j := by
  refine Nat.lt_of_le_of_ne (matchEnd?_bounds hi h).1 ?_
  rintro rfl
  obtain ⟨⟨taken, q⟩, hmatch, hindex⟩ := Option.map_eq_some_iff.mp h
  obtain ⟨q', hrun, heq⟩ := Option.map_eq_some_iff.mp hmatch
  obtain ⟨t, q'', -, hk⟩ := r.root.advances r.modes hrun
  have hq : q'.index = i := by
    rw [← hindex, ← heq]
  split at hk
  · simp at hk
  · rename_i hne
    obtain rfl : q'' = q' := Option.some.inj hk
    exact hne (by simp [hq, Place.ofIndex])

theorem IsNext.start_le_stop {x : Span} (h : r.IsNext s nonempty i x) : x.start ≤ x.stop :=
  (matchEnd?_bounds h.start_le h.matchEnd?_start).1

theorem IsNext.stop_le {x : Span} (h : r.IsNext s nonempty i x) : x.stop ≤ s.length :=
  (matchEnd?_bounds h.start_le h.matchEnd?_start).2

/-! ### One search -/

/-- A match at the index where a search begins is the one that it comes to. -/
theorem exists_isNext_of_matchAt (hi : i ≤ s.length)
    (h : r.matchAt nonempty (.ofIndex s i) = some (taken, q)) :
    ∃ x, r.IsNext s nonempty i x ∧ x.start = i ∧ taken = x.textIn s ∧ q = .ofIndex s x.stop := by
  obtain ⟨j, -, -, hend, htaken, hq⟩ := exists_of_matchAt hi h
  refine ⟨⟨i, j⟩, ⟨Nat.le_refl i, hi, by simpa using hend, fun k hk hlt => ?_⟩, rfl, htaken, hq⟩
  exact absurd hlt (Nat.not_lt.mpr hk)

/-- Only at the index where a search begins may a match be asked to take something. -/
theorem matchEnd?_of_lt (hlt : i < j) :
    r.matchEnd? s (nonempty && j == i) j = r.matchEnd? s (false && j == i + 1) j := by
  rw [beq_false_of_ne (Nat.ne_of_gt hlt), Bool.and_false, Bool.false_and]

section Miss

variable {x : Span} (hnone : r.matchAt nonempty (.ofIndex s i) = none)

include hnone

/-- Where nothing matches at the first index, the search goes on behind it without the condition. -/
theorem matchEnd?_of_miss (hij : i ≤ j) (h : i < j → r.matchEnd? s (false && j == i + 1) j = none) :
    r.matchEnd? s (nonempty && j == i) j = none := by
  rcases Nat.eq_or_lt_of_le hij with rfl | hlt
  · rw [matchEnd?, beq_self_eq_true, Bool.and_true, hnone]
    rfl
  · rw [matchEnd?_of_lt hlt]
    exact h hlt

theorem IsExhausted.of_succ (h : r.IsExhausted s false (i + 1)) : r.IsExhausted s nonempty i :=
  fun k hk hlength => matchEnd?_of_miss hnone hk fun hlt => h k hlt hlength

theorem IsNext.of_succ (h : r.IsNext s false (i + 1) x) : r.IsNext s nonempty i x where
  le_start := Nat.le_of_succ_le h.le_start
  start_le := h.start_le
  matchEnd?_start := by
    rw [matchEnd?_of_lt h.le_start]
    exact h.matchEnd?_start
  leftmost k hk hlt := matchEnd?_of_miss hnone hk fun hbehind => h.leftmost k hbehind hlt

end Miss

/-- **What a search comes to**: nothing if there is no match, and else the leftmost match. -/
theorem findFrom_cases (r : Pattern) (s : Text) (nonempty : Bool) (hi : i ≤ s.length) :
    (r.findFrom nonempty (s.take i).reverse (s.drop i) i = none ∧ r.IsExhausted s nonempty i) ∨
    ∃ x, r.IsNext s nonempty i x ∧ r.findFrom nonempty (s.take i).reverse (s.drop i) i =
      some (s.extract i x.start, x.textIn s, .ofIndex s x.stop) := by
  induction hn : s.length - i generalizing nonempty i with
  | zero =>
    -- the end of the text is the only place left
    obtain rfl : i = s.length := by omega
    have hplace : (⟨(s.take s.length).reverse, [], s.length, []⟩ : Place) =
        .ofIndex s s.length := by
      rw [Place.ofIndex, List.drop_length]
    rw [List.drop_length]
    unfold findFrom
    rw [hplace]
    split
    · rename_i taken q hmatch
      obtain ⟨x, hnext, hstart, rfl, rfl⟩ := exists_isNext_of_matchAt hi hmatch
      exact .inr ⟨x, hnext, by rw [hstart]; simp⟩
    · rename_i hmatch
      exact .inl ⟨rfl, .of_succ hmatch fun k hk hlength => absurd hlength (Nat.not_le.mpr hk)⟩
  | succ n ih =>
    have hlt : i < s.length := by omega
    have hcons : s.drop i = s[i] :: s.drop (i + 1) := List.drop_eq_getElem_cons hlt
    have htake : s[i] :: (s.take i).reverse = (s.take (i + 1)).reverse := by
      rw [List.take_succ_eq_append_getElem hlt, List.reverse_append]
      rfl
    unfold findFrom
    split
    · rename_i taken q hmatch
      obtain ⟨x, hnext, hstart, rfl, rfl⟩ := exists_isNext_of_matchAt hi hmatch
      exact .inr ⟨x, hnext, by rw [hstart]; simp⟩
    · rename_i hmatch
      rw [hcons]
      dsimp only
      rw [htake]
      rcases ih false hlt (by omega) with ⟨hnone, hexhausted⟩ | ⟨x, hnext, hfind⟩
      · exact .inl ⟨by rw [hnone]; rfl, .of_succ hmatch hexhausted⟩
      · have hpassed : s[i] :: s.extract (i + 1) x.start = s.extract i x.start := by
          have hle := hnext.le_start
          rw [List.extract_eq_take_drop, List.extract_eq_take_drop, hcons,
            show x.start - i = x.start - (i + 1) + 1 by omega, List.take_succ_cons]
        exact .inr ⟨x, .of_succ hmatch hnext, by rw [hfind, Option.map_some, hpassed]⟩

/-- A pattern is found in a text if it matches at an index of it. -/
theorem isFound_iff_occurs : r.isFound s = true ↔ r.Occurs s := by
  have hcases := findFrom_cases r s false (Nat.zero_le s.length)
  rw [isFound]
  constructor
  · intro h
    rcases hcases with ⟨hnone, -⟩ | ⟨x, hnext, -⟩
    · rw [List.take_zero, List.reverse_nil, List.drop_zero] at hnone
      rw [hnone] at h
      exact absurd h (by decide)
    · exact ⟨x.start, hnext.start_le, by rw [← Bool.false_and, hnext.matchEnd?_start]; rfl⟩
  · rintro ⟨k, hk, hsome⟩
    rcases hcases with ⟨-, hexhausted⟩ | ⟨x, -, hfind⟩
    · rw [← Bool.false_and, hexhausted k (Nat.zero_le k) hk] at hsome
      exact absurd hsome (by decide)
    · rw [List.take_zero, List.reverse_nil, List.drop_zero] at hfind
      rw [hfind]
      rfl

theorem IsNext.unique {x y : Span} (hx : r.IsNext s nonempty i x) (hy : r.IsNext s nonempty i y) :
    x = y := by
  have hstart : x.start = y.start := by
    rcases Nat.lt_trichotomy x.start y.start with hlt | heq | hlt
    · have hnone := hy.leftmost _ hx.le_start hlt
      rw [hx.matchEnd?_start] at hnone
      cases hnone
    · exact heq
    · have hnone := hx.leftmost _ hy.le_start hlt
      rw [hy.matchEnd?_start] at hnone
      cases hnone
  have hstop := hx.matchEnd?_start
  rw [hstart, hy.matchEnd?_start] at hstop
  obtain ⟨start, stop⟩ := x
  obtain ⟨start', stop'⟩ := y
  simp_all

theorem IsNext.not_isExhausted {x : Span} (h : r.IsNext s nonempty i x) :
    ¬r.IsExhausted s nonempty i := by
  intro hexhausted
  have hnone := hexhausted _ h.le_start h.start_le
  rw [h.matchEnd?_start] at hnone
  cases hnone

/-! ### All of them -/

namespace Enumerates

variable {xs ys : List Span}

/-- **There is one enumeration.** -/
theorem unique (hx : r.Enumerates s nonempty i xs) (hy : r.Enumerates s nonempty i ys) :
    xs = ys := by
  induction hx generalizing ys with
  | done h =>
    cases hy with
    | done => rfl
    | next hnext => exact absurd h hnext.not_isExhausted
  | next h _ ih =>
    cases hy with
    | done hexhausted => exact absurd hexhausted h.not_isExhausted
    | next hnext hrest =>
      obtain rfl := h.unique hnext
      rw [ih hrest]

/-- The matches follow one another. -/
theorem areOrdered (h : r.Enumerates s nonempty i xs) (hi : i ≤ s.length) : AreOrdered s i xs := by
  induction h with
  | done => exact hi
  | next h _ ih => exact ⟨h.le_start, h.start_le_stop, ih h.stop_le⟩

/-- There is none only where the pattern does not occur. -/
theorem ne_nil_of_occurs (h : r.Enumerates s false 0 xs) (hoccurs : r.Occurs s) : xs ≠ [] := by
  rintro rfl
  cases h with
  | done hexhausted =>
    obtain ⟨k, hk, hsome⟩ := hoccurs
    have hnone := hexhausted k (Nat.zero_le k) hk
    rw [Bool.false_and] at hnone
    rw [hnone] at hsome
    exact absurd hsome (by decide)

end Enumerates

/-- How many matches there can be: at every index one that takes nothing and one that takes
something. Every match lowers the number. -/
def matchesLeft (s : Text) (nonempty : Bool) (i : Nat) : Nat :=
  2 * (s.length - i) + if nonempty then 0 else 1

theorem IsNext.matchesLeft_lt {x : Span} (h : r.IsNext s nonempty i x) :
    matchesLeft s (x.start == x.stop) x.stop < matchesLeft s nonempty i := by
  have hstart := h.le_start
  have hstop := h.start_le_stop
  have hlength := h.stop_le
  unfold matchesLeft
  by_cases htook : x.start = x.stop
  · rw [htook, beq_self_eq_true, if_pos rfl]
    by_cases hfirst : x.start = i
    · -- it took nothing where the search began, so it was not asked to take anything
      have hflag : nonempty = false := by
        have hend := h.matchEnd?_start
        cases nonempty with
        | false => rfl
        | true =>
          rw [hfirst, beq_self_eq_true, Bool.and_true] at hend
          have hlt := lt_of_matchEnd?_true (hfirst ▸ h.start_le) hend
          omega
      rw [hflag]
      simp only [Bool.false_eq_true, if_false]
      omega
    · omega
  · rw [beq_false_of_ne htook]
    simp only [Bool.false_eq_true, if_false]
    split <;> omega

/-- **The pieces are cut at the enumeration**, as long as the bound on their number is large
enough. -/
theorem exists_piecesFrom (r : Pattern) (s : Text) (nonempty : Bool) (hi : i ≤ s.length)
    {limit : Nat} (hlimit : matchesLeft s nonempty i < limit) :
    ∃ xs, r.Enumerates s nonempty i xs ∧
      r.piecesFrom limit nonempty (.ofIndex s i) = piecesAt s i xs := by
  induction limit generalizing nonempty i with
  | zero => exact absurd hlimit (Nat.not_lt_zero _)
  | succ limit ih =>
    unfold piecesFrom
    rcases findFrom_cases r s nonempty hi with ⟨hnone, hexhausted⟩ | ⟨x, hnext, hfind⟩
    · exact ⟨[], .done hexhausted, by rw [Place.ofIndex, hnone]; rfl⟩
    · obtain ⟨xs, hxs, hpieces⟩ := ih (x.start == x.stop) hnext.stop_le
        (Nat.lt_of_lt_of_le hnext.matchesLeft_lt (Nat.le_of_lt_succ hlimit))
      have htook : (x.textIn s).isEmpty = (x.start == x.stop) := by
        have hstop := hnext.start_le_stop
        have hlength := hnext.stop_le
        rw [Span.textIn, List.extract_eq_take_drop, Bool.eq_iff_iff,
          List.isEmpty_iff_length_eq_zero,
          List.length_take, List.length_drop, beq_iff_eq]
        omega
      refine ⟨x :: xs, .next hnext hxs, ?_⟩
      rw [Place.ofIndex, hfind]
      dsimp only
      rw [htook, hpieces]
      rfl

/-- Every text has an enumeration. -/
theorem exists_enumerates (r : Pattern) (s : Text) : ∃ xs, r.Enumerates s false 0 xs :=
  (exists_piecesFrom r s false (Nat.zero_le _) (Nat.lt_succ_self _)).imp fun _ h => h.1

/-- **The pieces of a text are cut at the matches.** -/
theorem pieces_of_enumerates {xs : List Span} (h : r.Enumerates s false 0 xs) :
    r.pieces s = piecesAt s 0 xs := by
  have hlimit : matchesLeft s false 0 < mostMatches s := by
    simp [matchesLeft, mostMatches]
  obtain ⟨ys, hys, hpieces⟩ := exists_piecesFrom r s false (Nat.zero_le _) hlimit
  rw [h.unique hys]
  exact hpieces

/-- The pieces around the first match are cut at that one alone. -/
theorem piecesAtFirst_of_enumerates {xs : List Span} (h : r.Enumerates s false 0 xs) :
    r.piecesAtFirst s = piecesAt s 0 (xs.take 1) := by
  have hstart : Place.start s = .ofIndex s 0 := rfl
  rw [piecesAtFirst, hstart]
  unfold piecesFrom
  rcases findFrom_cases r s false (Nat.zero_le s.length) with
    ⟨hnone, hexhausted⟩ | ⟨x, hnext, hfind⟩
  · rw [h.unique (.done hexhausted), Place.ofIndex, hnone]
    rfl
  · cases h with
    | done hexhausted => exact absurd hexhausted hnext.not_isExhausted
    | next hnext' _ =>
      obtain rfl := hnext.unique hnext'
      rw [Place.ofIndex, hfind]
      rfl

end Pattern

end Scaffold
