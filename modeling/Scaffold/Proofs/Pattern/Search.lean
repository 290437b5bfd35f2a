import Mathlib.Data.List.Basic
import Scaffold.Pattern.Search
import Scaffold.Proofs.Pattern.Matcher

/-!
# The pieces of a text

The cut of a text at the matches of a pattern loses nothing: the pieces put together unchanged are
the text. So a substitution brings in what it puts in the place of the matches, and otherwise only
what was there.

## Main results

* `Pattern.findFrom_reads` — what is passed over and what is taken are the text read on the way
* `Pattern.flatMap_text_piecesFrom` — the pieces are the text
* `Pattern.piecesFrom_of_isFound`, `Pattern.piecesFrom_of_not_isFound` — whether there is a match
* `Pattern.editPieces_subset`, `Pattern.infix_editPieces` — what a substitution brings in
-/

namespace Scaffold

namespace Pattern

variable {r : Pattern} {nonempty : Bool} {before after passed taken s t : Text} {index : Nat}
  {p q : Place} {edit : Text → Text} {ps : List Piece}

/-! ### One match -/

theorem matchAt_reads (h : r.matchAt nonempty p = some (taken, q)) : p.Reads taken q := by
  obtain ⟨q', hrun, heq⟩ := Option.map_eq_some_iff.mp h
  obtain ⟨rfl, rfl⟩ := Prod.mk.inj heq
  obtain ⟨t, q'', hreads, hk⟩ := r.root.advances r.modes hrun
  obtain rfl : q'' = q' := by
    split at hk
    · simp at hk
    · exact Option.some.inj hk
  have hlength : q''.index - p.index = t.reverse.length := by
    rw [hreads.index, Nat.add_sub_cancel_left, List.length_reverse]
  have htaken : (q''.before.take (q''.index - p.index)).reverse = t := by
    rw [hreads.before, hlength, List.take_left, List.reverse_reverse]
  rw [htaken]
  exact hreads.ofCaptures.withCaptures []

/-- A search reads what it passes over and then what it takes. -/
theorem findFrom_reads (h : r.findFrom nonempty before after index = some (passed, taken, q)) :
    Place.Reads ⟨before, after, index, []⟩ (passed ++ taken) q := by
  induction after generalizing nonempty before index passed with
  | nil =>
    unfold findFrom at h
    split at h
    · rename_i hmatch
      cases h
      exact matchAt_reads hmatch
    · simp at h
  | cons c rest ih =>
    unfold findFrom at h
    split at h
    · rename_i hmatch
      cases h
      exact matchAt_reads hmatch
    · obtain ⟨⟨passed', taken', q'⟩, hrest, heq⟩ := Option.map_eq_some_iff.mp h
      cases heq
      exact (Place.reads_of_next? rfl).trans (ih hrest)

/-- What matches somewhere further on is found. -/
theorem findFrom_isSome_of_matchAt {passed rest : Text}
    (h : (r.matchAt false ⟨passed.reverse ++ before, rest, index + passed.length, []⟩).isSome) :
    (r.findFrom false before (passed ++ rest) index).isSome := by
  induction passed generalizing before index with
  | nil =>
    obtain ⟨⟨taken, q⟩, hmatch⟩ := Option.isSome_iff_exists.mp h
    change r.matchAt false ⟨before, rest, index, []⟩ = _ at hmatch
    cases rest <;> simp [findFrom, hmatch]
  | cons c passed ih =>
    have hplace : Place.mk ((c :: passed).reverse ++ before) rest
        (index + (c :: passed).length) [] =
          ⟨passed.reverse ++ c :: before, rest, index + 1 + passed.length, []⟩ := by
      simp [Nat.add_comm, Nat.add_left_comm]
    rw [hplace] at h
    rw [List.cons_append, findFrom]
    split
    · rfl
    · rw [Option.isSome_map]
      exact ih h

/-! ### Literal texts -/

/-- The pattern of a text that stands for itself. -/
def literal : Text → Node
  | [] => .empty
  | [c] => .code c.toNat
  | c :: rest => .seq (.code c.toNat) (literal rest)

theorem run_literal (k : Place → Option Place) (s rest before : Text) (index : Nat)
    (captures : List (Nat × Text)) :
    (literal s).run .none ⟨before, s ++ rest, index, captures⟩ k =
      k ⟨s.reverse ++ before, rest, index + s.length, captures⟩ := by
  induction s using literal.induct generalizing before index with
  | case1 => rfl
  | case2 c => simp [literal, Node.run, one, Place.next?, Modes.sameCode, Modes.none]
  | case3 c s hne ih =>
    have hfirst : ∀ k',
        (Node.code c.toNat).run .none ⟨before, c :: (s ++ rest), index, captures⟩ k' =
          k' ⟨c :: before, s ++ rest, index + 1, captures⟩ := fun k' => by
      simp [Node.run, one, Place.next?, Modes.sameCode, Modes.none]
    rw [literal, Node.run, List.cons_append, hfirst, ih]
    · simp [Nat.add_comm, Nat.add_left_comm]
    · exact hne

/-- **A literal text is found in every text that holds it.** -/
theorem isFound_literal (source : Text) (h : s <:+: t) :
    (⟨source, .none, literal s⟩ : Pattern).isFound t = true := by
  obtain ⟨passed, rest, rfl⟩ := h
  rw [isFound, List.append_assoc]
  refine findFrom_isSome_of_matchAt ?_
  rw [matchAt, Option.isSome_map, run_literal]
  rfl

/-! ### All matches -/

/-- **The pieces of a text are the text.** -/
theorem flatMap_text_piecesFrom (r : Pattern) (limit : Nat) (nonempty : Bool) (p : Place) :
    (r.piecesFrom limit nonempty p).flatMap Piece.text = p.after := by
  induction limit generalizing nonempty p with
  | zero => simp [piecesFrom, Piece.text]
  | succ limit ih =>
    unfold piecesFrom
    split
    · simp [Piece.text]
    · rename_i passed taken q hfind
      rw [List.flatMap_cons, List.flatMap_cons, ih, ← List.append_assoc]
      exact (findFrom_reads hfind).after.symm

/-- A text that the pattern is found in has a match among its pieces, however many of them are
looked for. -/
theorem piecesFrom_of_isFound (h : r.isFound s = true) (limit : Nat) :
    ∃ taken, Piece.found taken ∈ r.piecesFrom (limit + 1) false (.start s) := by
  obtain ⟨⟨passed, taken, q⟩, hfind⟩ := Option.isSome_iff_exists.mp h
  refine ⟨taken, ?_⟩
  simp only [piecesFrom, Place.start, hfind]
  simp

theorem piecesFrom_of_not_isFound (h : r.isFound s = false) (limit : Nat) :
    r.piecesFrom limit false (.start s) = [.kept s] := by
  have hfind : r.findFrom false [] s 0 = none := by simpa [isFound] using h
  cases limit with
  | zero => rfl
  | succ limit => simp only [piecesFrom, Place.start, hfind]

/-! ### Substitutions -/

/-- A substitution brings in nothing that neither the text nor what is put in it holds. -/
theorem editPieces_subset (hedit : ∀ found, edit found ⊆ found ++ t) (ps : List Piece) :
    editPieces edit ps ⊆ ps.flatMap Piece.text ++ t := by
  intro c hc
  obtain ⟨piece, hpiece, hc⟩ := List.mem_flatMap.mp hc
  rw [List.mem_append, List.mem_flatMap]
  cases piece with
  | kept s => exact Or.inl ⟨.kept s, hpiece, hc⟩
  | found s =>
    exact (List.mem_append.mp (hedit s hc)).imp (fun hs => ⟨.found s, hpiece, hs⟩) id

/-- What is put in the place of a match stands there in one piece. -/
theorem infix_editPieces (edit : Text → Text) (h : Piece.found s ∈ ps) :
    edit s <:+: editPieces edit ps := by
  rw [editPieces, List.flatMap_def]
  exact List.infix_of_mem_flatten (List.mem_map.mpr ⟨.found s, h, rfl⟩)

/-- A text without a match stays. -/
theorem editPieces_of_not_isFound (h : r.isFound s = false) (limit : Nat) :
    editPieces edit (r.piecesFrom limit false (.start s)) = s := by
  rw [piecesFrom_of_not_isFound h]
  exact List.append_nil s

end Pattern

end Scaffold
