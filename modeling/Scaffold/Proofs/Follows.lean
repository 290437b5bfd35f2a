import Scaffold.Proofs.Keeps

/-!
# Steps that follow others

One state may show less than another and still be enough for what is done next. A step that begins
at the smaller state then follows the one that begins at the larger: it gives the same whenever the
other gives something, and the states where they end belong together again.

Where the first step can go on in what only its own state shows, nothing can be said. Such states
are lost; what is asked for is that no step leads back from them.

## Main definitions

* `Follows` — a step follows another one, from two states on
-/

namespace Scaffold

variable {σ ε α β : Type} {lost : σ → Prop} {rel rel' : σ → σ → Prop} {t s : σ}

/-- Whatever the first step gives from the one state, the second step gives from the other, and the
states behind them are related; unless the first step ends at a lost state. -/
def Follows (lost : σ → Prop) (rel : σ → σ → Prop) (t s : σ) (f g : StateT σ (Except ε) α) : Prop :=
  ∀ a t', f.run t = .ok (a, t') → ¬lost t' → ∃ s', g.run s = .ok (a, s') ∧ rel t' s'

namespace Follows

variable {f g : StateT σ (Except ε) α} {k k' : α → StateT σ (Except ε) β}

theorem pure (h : rel t s) (a : α) :
    Follows lost rel t s (Pure.pure a : StateT σ (Except ε) α) (Pure.pure a) := by
  rintro _ _ ⟨rfl, rfl⟩ -
  exact ⟨s, rfl, h⟩

theorem of_run {a : α} {t' s' : σ} (hf : f.run t = .ok (a, t')) (hg : g.run s = .ok (a, s'))
    (h : rel t' s') : Follows lost rel t s f g := by
  intro b t'' hrun _
  rw [hf] at hrun
  obtain ⟨rfl, rfl⟩ := hrun
  exact ⟨s', hg, h⟩

theorem throw {e : ε} : Follows lost rel t s (throw e : StateT σ (Except ε) α) g :=
  fun _ _ h => nomatch h

theorem throw_bind {e : ε} {g : StateT σ (Except ε) β} :
    Follows lost rel t s ((MonadExceptOf.throw e : StateT σ (Except ε) α) >>= k) g :=
  fun _ _ h => nomatch h

/-- From a lost state on there is nothing to follow. -/
theorem of_lost [hf : Keeps lost (fun _ => True) f] (h : lost t) : Follows lost rel t s f g :=
  fun _ _ hrun hlive => absurd ((hf.gives t h).ok hrun) hlive

theorem mono {lost' : σ → Prop} (h : Follows lost rel t s f g) (hlost : ∀ t, lost t → lost' t)
    (hrel : ∀ t' s', rel t' s' → rel' t' s') : Follows lost' rel' t s f g :=
  fun a t' hrun hlive =>
    (h a t' hrun (mt (hlost t') hlive)).imp fun s' hs' => ⟨hs'.1, hrel t' s' hs'.2⟩

theorem seq (h : Follows (fun _ => False) rel t s f g)
    (hk : ∀ a t' s', g.run s = .ok (a, s') → rel t' s' → Follows lost rel' t' s' (k a) (k' a)) :
    Follows lost rel' t s (f >>= k) (g >>= k') := by
  intro b t'' hrun hlive
  obtain ⟨a, t', hf, hkrun⟩ := exists_of_run_bind hrun
  obtain ⟨s', hg, hrel⟩ := h a t' hf id
  obtain ⟨s'', hk', hrel'⟩ := hk a t' s' hg hrel b t'' hkrun hlive
  exact ⟨s'', by rw [run_bind_of_ok hg, hk'], hrel'⟩

/-- The same where the first step may lose its way. -/
theorem bind [hlost : ∀ a, Keeps lost (fun _ => True) (k a)] (h : Follows lost rel t s f g)
    (hk : ∀ a t' s', g.run s = .ok (a, s') → rel t' s' → Follows lost rel' t' s' (k a) (k' a)) :
    Follows lost rel' t s (f >>= k) (g >>= k') := by
  intro b t'' hrun hlive
  obtain ⟨a, t', hf, hkrun⟩ := exists_of_run_bind hrun
  have hlive' : ¬lost t' := fun ht' => hlive (((hlost a).gives t' ht').ok hkrun)
  obtain ⟨s', hg, hrel⟩ := h a t' hf hlive'
  obtain ⟨s'', hk', hrel'⟩ := hk a t' s' hg hrel b t'' hkrun hlive
  exact ⟨s'', by rw [run_bind_of_ok hg, hk'], hrel'⟩

theorem map {value : α → β} (h : Follows (fun _ => False) rel t s f g) :
    Follows lost rel t s (value <$> f) (value <$> g) := by
  rw [← bind_pure_comp, ← bind_pure_comp]
  exact .seq h fun a _ _ _ h => .pure h _

theorem get_bind {k k' : σ → StateT σ (Except ε) β} (h : Follows lost rel t s (k t) (k' s)) :
    Follows lost rel t s (get >>= k) (get >>= k') := h

theorem set_bind {t' s' : σ} {k k' : PUnit → StateT σ (Except ε) β}
    (h : Follows lost rel t' s' (k ⟨⟩) (k' ⟨⟩)) :
    Follows lost rel t s (set t' >>= k) (set s' >>= k') := h

theorem modify_bind {change change' : σ → σ} {k k' : PUnit → StateT σ (Except ε) β}
    (h : Follows lost rel (change t) (change' s) (k ⟨⟩) (k' ⟨⟩)) :
    Follows lost rel t s (modify change >>= k) (modify change' >>= k') := h

/-- What fails is followed by anything. So a step that is begun only where nothing forbids it is
followed by one that less forbids. -/
theorem guard {p p' : Prop} [Decidable p] [Decidable p'] {f₀ g₀ : StateT σ (Except ε) α}
    (hp : p' → p) (hfail : ∀ g', Follows lost rel t s f₀ g') (h : ¬p → Follows lost rel t s f g) :
    Follows lost rel t s (if p then f₀ else f) (if p' then g₀ else g) := by
  by_cases hp₁ : p
  · rw [if_pos hp₁]
    exact hfail _
  · rw [if_neg hp₁, if_neg (mt hp hp₁)]
    exact h hp₁

theorem ite {p p' : Prop} [Decidable p] [Decidable p'] {f' g' : StateT σ (Except ε) α}
    (hp : p ↔ p') (h : p → Follows lost rel t s f g) (h' : ¬p → Follows lost rel t s f' g') :
    Follows lost rel t s (if p then f else f') (if p' then g else g') := by
  by_cases hp₁ : p
  · rw [if_pos hp₁, if_pos (hp.mp hp₁)]
    exact h hp₁
  · rw [if_neg hp₁, if_neg (mt hp.mpr hp₁)]
    exact h' hp₁

end Follows

end Scaffold
