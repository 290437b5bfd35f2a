import Scaffold.Pattern.Matcher

/-!
# Matching moves on

Whatever a pattern is, matching it at a place leads to a place further on in the same text: what
was read in between went from the front of what is to come to the end of what was read. Looks
ahead and behind lead nowhere; they come back to where they began, with captures.

A matcher that answers has asked its continuation at such a place, and the answer is that of the
continuation. This is kept by every way of putting matchers together, and so it holds of every
tree by structural induction.

## Main results

* `Pattern.Node.advances` — the matcher of a pattern moves on
-/

namespace Scaffold

namespace Pattern

variable {p q q' : Place} {s t : Text} {m : Modes} {body : Matcher}

/-! ### Places -/

/-- From one place to another by reading a text. What was captured does not count. -/
structure Place.Reads (p : Place) (t : Text) (q : Place) : Prop where
  after : p.after = t ++ q.after
  before : q.before = t.reverse ++ p.before
  index : q.index = p.index + t.length

namespace Place

theorem Reads.refl (p : Place) : p.Reads [] p := ⟨rfl, rfl, rfl⟩

theorem Reads.trans (h : p.Reads s q) (h' : q.Reads t q') : p.Reads (s ++ t) q' where
  after := by rw [h.after, h'.after, List.append_assoc]
  before := by rw [h'.before, h.before, List.reverse_append, List.append_assoc]
  index := by rw [h'.index, h.index, List.length_append, Nat.add_assoc]

/-- What is captured at the end of the way makes no difference. -/
theorem Reads.withCaptures (h : p.Reads t q) (captures : List (Nat × Text)) :
    p.Reads t { q with captures := captures } := ⟨h.after, h.before, h.index⟩

/-- What was captured at the beginning of the way makes no difference. -/
theorem Reads.ofCaptures {captures : List (Nat × Text)}
    (h : Reads { p with captures := captures } t q) : p.Reads t q := ⟨h.after, h.before, h.index⟩

theorem reads_of_next? {c : Char} (h : p.next? = some (c, q)) : p.Reads [c] q := by
  obtain ⟨before, after, index, captures⟩ := p
  cases after with
  | nil => simp [next?] at h
  | cons d after =>
    obtain ⟨rfl, rfl⟩ : d = c ∧ Place.mk (d :: before) after (index + 1) captures = q := by
      simpa [next?] using h
    exact ⟨rfl, rfl, rfl⟩

end Place

/-! ### Matchers -/

/-- Every answer of the matcher is an answer of its continuation, at a place that it read up to. -/
def Advances (body : Matcher) : Prop :=
  ∀ ⦃p k r⦄, body p k = some r → ∃ t q, p.Reads t q ∧ k q = some r

theorem advances_one (test : Char → Bool) : Advances (one test) := by
  intro p k r h
  unfold one at h
  split at h
  · rename_i c q hnext
    rw [Option.ite_none_right_eq_some] at h
    exact ⟨[c], q, Place.reads_of_next? hnext, h.2⟩
  · simp at h

theorem advances_again (m : Modes) (s : Text) : Advances (again m s) := by
  induction s with
  | nil => exact fun p k r h => ⟨[], p, .refl p, h⟩
  | cons d s ih =>
    intro p k r h
    unfold again at h
    split at h
    · rename_i c q hnext
      rw [Option.ite_none_right_eq_some] at h
      obtain ⟨t, q', hreads, hk⟩ := ih h.2
      exact ⟨[c] ++ t, q', (Place.reads_of_next? hnext).trans hreads, hk⟩
    · simp at h

/-- One matcher and then another, which may depend on the place in between. -/
theorem Advances.andThen (h : Advances body) {next : Place → Matcher}
    (hnext : ∀ q, Advances (next q)) : Advances fun p k => body p fun q => next q q k := by
  intro p k r hr
  obtain ⟨s, q, hs, hrest⟩ := h hr
  obtain ⟨t, q', ht, hk⟩ := hnext q hrest
  exact ⟨s ++ t, q', hs.trans ht, hk⟩

theorem Advances.firstWay (h : Advances body) : Advances (firstWay body) := by
  intro p k r hr
  obtain ⟨q, hq, hk⟩ := Option.bind_eq_some_iff.mp hr
  obtain ⟨t, q', hreads, hsome⟩ := h hq
  obtain rfl : q' = q := Option.some.inj hsome
  exact ⟨t, q', hreads, hk⟩

theorem Advances.turns (h : Advances body) (n : Nat) : Advances (turns body n) := by
  induction n with
  | zero => exact fun p k r hr => ⟨[], p, .refl p, hr⟩
  | succ n ih => exact h.andThen fun _ => ih

theorem Advances.greedyTurns (h : Advances body) (n : Nat) (last : Option Nat) :
    Advances (greedyTurns body n last) := by
  induction n generalizing last with
  | zero => exact fun p k r hr => ⟨[], p, .refl p, hr⟩
  | succ n ih =>
    intro p k r hr
    unfold Pattern.greedyTurns at hr
    split at hr
    · exact ⟨[], p, .refl p, hr⟩
    · split at hr
      · rename_i hturn
        exact (h.andThen fun _ => ih (some p.index)) (hturn.trans hr)
      · exact ⟨[], p, .refl p, hr⟩

theorem Advances.lazyTurns (h : Advances body) (n : Nat) (last : Option Nat) :
    Advances (lazyTurns body n last) := by
  induction n generalizing last with
  | zero => exact fun p k r hr => ⟨[], p, .refl p, hr⟩
  | succ n ih =>
    intro p k r hr
    unfold Pattern.lazyTurns at hr
    split at hr
    · rename_i hk
      exact ⟨[], p, .refl p, hk.trans hr⟩
    · split at hr
      · simp at hr
      · exact (h.andThen fun _ => ih (some p.index)) hr

theorem Advances.quantified (h : Advances body) (least : Nat) (most : Option Nat)
    (appetite : Appetite) : Advances (quantified least most appetite body) := by
  cases appetite with
  | greedy => exact (h.turns least).andThen fun _ => h.greedyTurns _ none
  | lazy => exact (h.turns least).andThen fun _ => h.lazyTurns _ none
  | possessive =>
    exact ((h.firstWay.turns least).andThen fun _ => h.firstWay.greedyTurns _ none).firstWay

/-- **Matching moves on**, whatever the pattern. -/
theorem Node.advances (n : Node) (m : Modes) : Advances (n.run m) := by
  induction n generalizing m with
  | empty => exact fun p k r h => ⟨[], p, .refl p, h⟩
  | code | any | set => exact advances_one _
  | anchor place =>
    intro p k r h
    unfold run at h
    split at h
    · exact ⟨[], p, .refl p, h⟩
    · simp at h
  | seq a b iha ihb => exact (iha m).andThen fun _ => ihb m
  | either a b iha ihb =>
    intro p k r h
    unfold run at h
    split at h
    · rename_i hfirst
      exact iha m (hfirst.trans h)
    · exact ihb m h
  | group number body ih =>
    intro p k r h
    obtain ⟨t, q, hreads, hk⟩ := ih m h
    exact ⟨t, _, hreads.withCaptures _, hk⟩
  | modes added dropped body ih => exact ih _
  | same number w =>
    intro p k r h
    unfold run at h
    split at h
    · exact advances_again m _ h
    · simp at h
  | branch number present absent ihp iha =>
    intro p k r h
    unfold run at h
    split at h
    · exact ihp m h
    · exact iha m h
  | times least most appetite body ih => exact (ih m).quantified least most appetite
  | ahead negated body | behind negated w body =>
    intro p k r h
    unfold run at h
    split at h
    · exact ⟨[], _, (Place.Reads.refl p).withCaptures _, h⟩
    · exact ⟨[], p, .refl p, h⟩
    · simp at h
  | atomic body ih => exact (ih m).firstWay

end Pattern

end Scaffold
