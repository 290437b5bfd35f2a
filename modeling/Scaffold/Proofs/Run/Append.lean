import Mathlib.Control.Monad.Basic
import Scaffold.Proofs.Document.Append
import Scaffold.Proofs.Run.Sequence
import Scaffold.Storage.Memory

/-!
# Documents one after the other

Running two documents as one, with a delimiter line between them, is running the first one and, if
that succeeds, the second one on what the first one leaves. This holds wherever files are kept.

The message of a run is the only thing that is put together: the messages of both runs come out
one to a line, and an empty one does not count.

## Main results

* `Run.merge_append` — merging is a homomorphism
* `Run.document_append` — two documents as one
-/

namespace Scaffold

namespace Run

variable {σ : Type} {results more : List Result} {first second : Action σ Result}
  {p q q' : Progress σ} {e : Failure} {r r' : Result}

/-! ### Messages -/

/-- The message that a result carries, or none. -/
def Result.text : Result → Text
  | .generated (some message) => message
  | _ => []

/-- Two messages, one to a line, where an empty one does not count. -/
def joinMessages (a b : Text) : Text :=
  if a = [] then b else if b = [] then a else a ++ '\n' :: b

theorem ne_nil_of_mem_messages {m : Text} (h : m ∈ results.filterMap Result.message?) : m ≠ [] := by
  obtain ⟨r, -, hr⟩ := List.mem_filterMap.mp h
  unfold Result.message? at hr
  split at hr
  · split at hr
    · simp at hr
    · rename_i hne
      cases hr
      exact fun hnil => hne (List.isEmpty_iff.mpr hnil)
  · simp at hr

theorem text_merge_eq_nil_iff :
    (merge results).text = [] ↔ results.filterMap Result.message? = [] := by
  rw [merge, Result.text]
  rcases h : results.filterMap Result.message? with _ | ⟨m, ms⟩
  · simp [Text.join]
  · have hm : m ≠ [] := ne_nil_of_mem_messages (h ▸ List.mem_cons_self)
    cases ms <;> simp [Text.join, List.intercalate_cons_cons, hm]

/-- **Merging is a homomorphism**: the results of two runs put together have the messages of
both. -/
theorem merge_append (results more : List Result) :
    merge (results ++ more) =
      .generated (some (joinMessages (merge results).text (merge more).text)) := by
  rw [joinMessages, merge, List.filterMap_append]
  by_cases hresults : results.filterMap Result.message? = []
  · rw [if_pos (text_merge_eq_nil_iff.mpr hresults), hresults, List.nil_append]
    rfl
  · rw [if_neg (mt text_merge_eq_nil_iff.mp hresults)]
    by_cases hmore : more.filterMap Result.message? = []
    · rw [if_pos (text_merge_eq_nil_iff.mpr hmore), hmore, List.append_nil]
      rfl
    · rw [if_neg (mt text_merge_eq_nil_iff.mp hmore), Text.join_append hresults hmore,
        List.append_assoc]
      rfl

/-! ### Runs -/

/-- One action after the other. The second one is carried out only if the first one succeeds. -/
def andThen (first second : Action σ Result) : Action σ Result := fun p =>
  match first p with
  | (.error e, p) => (.error e, p)
  | (.ok r, p) => match second p with
    | (.error e, p) => (.error e, p)
    | (.ok r', p) => (.ok (.generated (some (joinMessages r.text r'.text))), p)

theorem andThen_of_error (h : first p = (.error e, q)) :
    andThen first second p = (.error e, q) := by
  rw [andThen, h]

theorem andThen_of_ok_of_error (h : first p = (.ok r, q)) (h' : second q = (.error e, q')) :
    andThen first second p = (.error e, q') := by
  simp only [andThen, h, h']

theorem andThen_of_ok (h : first p = (.ok r, q)) (h' : second q = (.ok r', q')) :
    andThen first second p =
      (.ok (.generated (some (joinMessages r.text r'.text))), q') := by
  simp only [andThen, h, h']

/-- **Two documents as one.** When both can be read, the document they make with a delimiter line
between them has the pairs of both, and running it is running the one and then the other. -/
theorem document_append [Storage σ] {s t : Text} {ps qs : List (Directive × Text)}
    (hs : Document.parse s = .ok ps) (ht : Document.parse t = .ok qs) :
    Document.parse (s ++ Text.of "\n---\n" ++ t) = .ok (ps ++ qs) ∧
      ∀ (wd : Option Path) (p : Progress σ),
        document wd (s ++ Text.of "\n---\n" ++ t) p =
          andThen (document wd s) (document wd t) p := by
  have hboth := Document.parse_append hs ht
  refine ⟨hboth, fun wd p => ?_⟩
  rcases hfirst : pairs wd ps p with ⟨e | results, q⟩
  · rw [andThen_of_error (document_eq_error_iff.mpr (Or.inr ⟨ps, hs, hfirst⟩))]
    exact document_eq_error_iff.mpr (Or.inr ⟨_, hboth, pairs_append_of_error hfirst⟩)
  · have hrun : document wd s p = (.ok (merge results), q) := document_of_pairs hs hfirst
    rcases hsecond : pairs wd qs q with ⟨e | more, q'⟩
    · rw [andThen_of_ok_of_error hrun (document_eq_error_iff.mpr (Or.inr ⟨qs, ht, hsecond⟩))]
      exact document_eq_error_iff.mpr
        (Or.inr ⟨_, hboth, pairs_append_of_ok_of_error hfirst hsecond⟩)
    · rw [andThen_of_ok hrun (document_of_pairs ht hsecond), ← merge_append]
      exact document_of_pairs hboth (pairs_append_of_ok hfirst hsecond)

/-- A document that ends with a carriage return, behind a delimiter line without a body. -/
def endingText : Text := Text.of "to: a\nmessage: m\n---\r\nx\r---\r"

/-- A document that begins with blank lines and stops because `n` is not there. -/
def failingText : Text :=
  Text.of " \n\n---\nto: b\n---\ny\n---\nto: c\ninjections: [into: n]\n---\nz"

theorem document_append_stopping :
    let start : Progress Memory := ⟨⟨[(['b'], ['0'])], [], []⟩, [], []⟩
    let both := endingText ++ Text.of "\n---\n" ++ failingText
    Document.parse both = .ok
        ([(⟨['a'], false, none, some ['m'], []⟩, ['x'])] ++
          [(⟨['b'], false, none, none, []⟩, ['y']),
            (⟨['c'], false, none, none, [⟨['n'], [], false, none, none⟩]⟩, ['z'])]) ∧
      document none both start =
        andThen (document none endingText) (document none failingText) start ∧
      document none both start =
        (.error (.storage (.noTarget (Path.ofText ['n']))), (document none both start).2) ∧
      (document none both start).2.store.writes =
        [(['a'], ['x']), (['b'], ['y']), (['c'], ['z'])] := by
  intro start both
  have hending : Document.parse endingText =
      .ok [(⟨['a'], false, none, some ['m'], []⟩, ['x'])] := by decide +kernel
  have hstopping : Document.parse failingText =
      .ok [(⟨['b'], false, none, none, []⟩, ['y']),
        (⟨['c'], false, none, none, [⟨['n'], [], false, none, none⟩]⟩, ['z'])] := by
    decide +kernel
  have happend := document_append (σ := Memory) hending hstopping
  exact ⟨happend.1, happend.2 none start, by decide +kernel, by decide +kernel⟩

end Run

end Scaffold
