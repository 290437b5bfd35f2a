import Scaffold.Proofs.Template.Operate
import Scaffold.Proofs.Template.Scope

/-!
# Names at a place

Inside a scope that covers what is read and bound there, names are found, and binding one of them
leaves the scope with the names that it has.

## Main definitions

* `Template.Place.sees`, `Template.Place.owns` — the names at a place, as the shapes tell them
* `Template.Place.Bears` — a place that has all that something asks for
-/

namespace Scaffold

namespace Template

variable {E : Reckoning} {σ τ : Shapes} {p : Place} {name : Text} {item : Item}
  {names reads binds reads' binds' : List Text} {risks risks' : List Fault}
  {frames : List Frame} {handed : List (Text × Item)} {scope : (Text → Bool) → Scope}

/-- The names of the scope at an address. -/
def Shapes.namesOf (σ : Shapes) (a : Address) : List Text :=
  match σ a with
  | some (.frame names) => names
  | _ => []

theorem Shapes.namesOf_eq {a : Address} (h : σ a = some (.frame names)) : σ.namesOf a = names := by
  rw [namesOf, h]

namespace Place

/-- Whether a name can be seen at a place. -/
def sees (σ : Shapes) (p : Place) (name : Text) : Bool :=
  p.scopes.any fun a => (σ.namesOf a).contains name

/-- Whether the innermost scope at a place has a name. -/
def owns (σ : Shapes) (p : Place) (name : Text) : Bool :=
  p.scopes.head?.any fun a => (σ.namesOf a).contains name

theorem IsSound.map_namesOf (h : p.IsSound σ) (hgrows : σ.Grows τ) :
    p.scopes.map τ.namesOf = p.scopes.map σ.namesOf := by
  refine List.map_congr_left fun a ha => ?_
  obtain ⟨names, hnames⟩ := h.scopes a ha
  rw [Shapes.namesOf_eq hnames, Shapes.namesOf_eq (hgrows.settled hnames rfl)]

theorem sees_eq (σ : Shapes) (p : Place) (name : Text) :
    p.sees σ name = (p.scopes.map σ.namesOf).any fun names => names.contains name := by
  rw [sees, List.any_map]
  rfl

/-- The names at a place stay the same. -/
theorem IsSound.sees_grows (h : p.IsSound σ) (hgrows : σ.Grows τ) : p.sees τ = p.sees σ := by
  funext name
  rw [sees_eq, sees_eq, h.map_namesOf hgrows]

theorem IsSound.owns_grows (h : p.IsSound σ) (hgrows : σ.Grows τ) : p.owns τ = p.owns σ := by
  funext name
  have hhead := congrArg List.head? (h.map_namesOf hgrows)
  rw [List.head?_map, List.head?_map] at hhead
  rw [owns, owns]
  cases hscopes : p.scopes.head? with
  | none => rfl
  | some a =>
    rw [hscopes] at hhead
    exact congrArg (·.contains name) (Option.some.inj hhead)

/-- A place that has what something asks for: the names that it reads and those that it binds. What
it risks is reckoned with. Where it is reckoned with that a promise does not hold, names that are
read need not be there. -/
structure Bears (E : Reckoning) (σ : Shapes) (p : Place) (reads binds : List Text)
    (risks : List Fault) : Prop where
  place : p.IsSound σ
  reads : ∀ n ∈ reads, p.sees σ n = true ∨ E.has .broken
  binds : ∀ n ∈ binds, p.owns σ n = true
  risks : E.hasAll risks

namespace Bears

theorem grows (h : p.Bears E σ reads binds risks) (hgrows : σ.Grows τ) :
    p.Bears E τ reads binds risks where
  place := h.place.grows hgrows
  reads := h.place.sees_grows hgrows ▸ h.reads
  binds := h.place.owns_grows hgrows ▸ h.binds
  risks := h.risks

theorem less (h : p.Bears E σ reads binds risks) (hreads : reads' ⊆ reads) (hbinds : binds' ⊆ binds)
    (hrisks : risks' ⊆ risks) : p.Bears E σ reads' binds' risks' where
  place := h.place
  reads n hn := h.reads n (hreads hn)
  binds n hn := h.binds n (hbinds hn)
  risks f hf := h.risks f (hrisks hf)

/-- What is asked for in two parts. -/
theorem split (h : p.Bears E σ (reads ++ reads') (binds ++ binds') (risks ++ risks')) :
    p.Bears E σ reads binds risks ∧ p.Bears E σ reads' binds' risks' :=
  ⟨h.less (List.subset_append_left ..) (List.subset_append_left ..) (List.subset_append_left ..),
    h.less (List.subset_append_right ..) (List.subset_append_right ..)
      (List.subset_append_right ..)⟩

/-- The same where the first part binds nothing. -/
theorem splitReads (h : p.Bears E σ (reads ++ reads') binds (risks ++ risks')) :
    p.Bears E σ reads [] risks ∧ p.Bears E σ reads' binds risks' :=
  split (h.less (fun _ hn => hn) (fun _ hn => hn) fun _ hf => hf)

/-- The same where the first part is risked only. -/
theorem splitRisks (h : p.Bears E σ reads binds (risks ++ risks')) :
    E.hasAll risks ∧ p.Bears E σ reads binds risks' :=
  ⟨fun f hf => h.risks f (List.mem_append_left _ hf),
    h.less (fun _ hn => hn) (fun _ hn => hn) (List.subset_append_right ..)⟩

end Bears

/-- Inside a scope there are the names that it covers. -/
theorem IsSound.inside (hp : p.IsSound σ) (hgrows : σ.Grows τ) {s : Scope} {a : Address}
    (ha : τ a = some (.frame (s.own.map (·.1)))) (hs : s.Covers (p.sees σ) reads binds)
    (hrisks : E.hasAll risks) :
    Bears E τ { p with scopes := a :: p.scopes, isTop := false } reads binds risks := by
  have hp' := hp.grows hgrows
  have hhas {n : Text} (hn : s.has n = true) : (τ.namesOf a).contains n = true := by
    rw [Shapes.namesOf_eq ha]
    simpa using Scope.has_iff.mp hn
  exact {
    place := {
      scopes := List.forall_mem_cons.mpr ⟨⟨_, ha⟩, hp'.scopes⟩
      context := hp'.context
      base := hp'.base }
    reads := fun n hn => .inl <| by
      rw [sees, List.any_cons, Bool.or_eq_true]
      exact (hs.reads n hn).imp hhas fun h => by rwa [← hp.sees_grows hgrows] at h
    binds := fun n hn => hhas (hs.binds n hn)
    risks := hrisks }

end Place

/-! ### Frames -/

theorem hasName_eq (frames : List Frame) (name : Text) :
    hasName frames name = (frames.map Frame.names).any fun names => names.contains name := by
  rw [hasName, List.any_map]
  congr 1
  funext f
  rw [Bool.eq_iff_iff, Function.comp_apply, List.contains_iff_mem]
  simp [Frame.names]

theorem exists_lookup {α : Type} {xs : List (Text × α)} (h : name ∈ xs.map (·.1)) :
    ∃ v, xs.lookup name = some v := by
  induction xs with
  | nil => cases h
  | cons x xs ih =>
    rw [List.lookup_cons]
    split
    · exact ⟨_, rfl⟩
    · next hne =>
      rcases List.mem_cons.mp h with rfl | h
      · simp at hne
      · exact ih h

/-- A name that frames have stands for something, or for nothing yet. -/
theorem exists_valueIn (h : hasName frames name = true) : ∃ v, valueIn frames name = some v := by
  induction frames with
  | nil => cases h
  | cons f frames ih =>
    rw [valueIn, List.findSome?_cons]
    cases hf : f.values.lookup name with
    | some v => exact ⟨v, rfl⟩
    | none =>
      rw [hasName, List.any_cons, Bool.or_eq_true] at h
      refine ih (h.resolve_left fun hname => ?_)
      have hmem : name ∈ f.values.map (·.1) := by simpa using hname
      obtain ⟨v, hv⟩ := exists_lookup hmem
      exact nomatch hf.symm.trans hv

theorem isSound_of_valueIn (hframes : ∀ f ∈ frames, f.IsSound E σ)
    (h : valueIn frames name = some (some item)) : item.IsSound E σ := by
  obtain ⟨f, hf, hlookup⟩ := List.exists_of_findSome?_eq_some h
  exact hframes f hf _ (mem_of_lookup hlookup) item rfl

theorem isSound_of_resolve? {c : Context} (hc : AreBound E σ c.all)
    (h : c.resolve? name = some item) : item.IsSound E σ := by
  rw [Context.resolve?] at h
  cases hbound : c.bound.lookup name with
  | some i =>
    rw [hbound] at h
    obtain rfl : i = item := Option.some.inj h
    exact hc _ (List.mem_append_left _ (mem_of_lookup hbound))
  | none =>
    rw [hbound] at h
    exact hc _ (List.mem_append_right _ (mem_of_lookup h))

namespace Looks

theorem isBased (hp : p.IsSound σ) : Looks E σ (fun _ => True) (isBased p) :=
  (cellAt hp.base).seq fun c hc => by
    cases hc
    exact pure trivial

theorem putGuarded (hp : p.IsSound σ) (s : Text) : Looks E σ (fun _ => True) (putGuarded p s) := by
  refine (isBased hp).seq fun isBased _ => ?_
  split
  · exact pure trivial
  · exact put s

theorem contextAt {a : Address} (ha : σ a = some .context) :
    Looks E σ (fun c => AreBound E σ c.all) (contextAt a) :=
  (cellAt ha).seq fun c hc => by
    cases hc
    exact pure ‹_›

/-- The frame of a scope has the names that the shape of the scope tells. -/
theorem frameAt {a : Address} {names : List Text} (ha : σ a = some (.frame names)) :
    Looks E σ (fun f => f.names = σ.namesOf a ∧ f.IsSound E σ) (do
      match ← Template.cellAt a with
      | .frame f => return f
      | _ => throw .broken) := by
  refine (cellAt ha).seq fun c hc => ?_
  cases hc
  exact pure ⟨(Shapes.namesOf_eq ha).symm, ‹_›⟩

theorem mapM_frames {scopes : List Address} {frameOf : Address → Work Frame}
    (h : ∀ a ∈ scopes, Looks E σ (fun f => f.names = σ.namesOf a ∧ f.IsSound E σ) (frameOf a)) :
    Looks E σ (fun frames => frames.map Frame.names = scopes.map σ.namesOf ∧
      ∀ f ∈ frames, f.IsSound E σ) (scopes.mapM frameOf) := by
  induction scopes with
  | nil => exact pure ⟨rfl, List.forall_mem_nil _⟩
  | cons a scopes ih =>
    obtain ⟨ha, hrest⟩ := List.forall_mem_cons.mp h
    rw [List.mapM_cons]
    refine ha.seq fun f hf => (ih hrest).seq fun frames hframes => pure ⟨?_, ?_⟩
    · rw [List.map_cons, List.map_cons, hf.1, hframes.1]
    · exact List.forall_mem_cons.mpr ⟨hf.2, hframes.2⟩

/-- The frames at a place have the names that their shapes tell. -/
theorem framesOf (hp : p.IsSound σ) :
    Looks E σ (fun frames => hasName frames = p.sees σ ∧ ∀ f ∈ frames, f.IsSound E σ)
      (framesOf p) := by
  have hframes : ∀ a ∈ p.scopes, Looks E σ _ _ := fun a ha =>
    (hp.scopes a ha).elim fun _ ha => frameAt ha
  refine (mapM_frames hframes).mono fun frames hframes => ⟨?_, hframes.2⟩
  funext name
  rw [hasName_eq, hframes.1, Place.sees_eq]

/-! ### Scopes -/

/-- A scope with its first values has the names of the scope, and what they stand for is sound. -/
theorem newFrame (hp : p.IsSound σ) (hhanded : AreBound E σ handed) :
    Looks E σ (fun f => f.names = (scope (p.sees σ)).own.map (·.1) ∧ f.IsSound E σ)
      (newFrame p scope handed) := by
  refine (framesOf hp).seq fun frames hframes => (contextAt hp.context).seq fun c hc => pure ?_
  rw [hframes.1]
  refine ⟨?_, ?_⟩
  · rw [Frame.names, List.map_map]
    refine List.map_congr_left fun x _ => ?_
    obtain ⟨n, o⟩ := x
    cases o <;> rfl
  · refine List.forall_mem_map.mpr fun x _ i hi => ?_
    obtain ⟨n, o⟩ := x
    cases o with
    | parameter => exact hhanded _ (mem_of_lookup hi)
    | context => exact isSound_of_resolve? hc hi
    | outer => exact isSound_of_valueIn hframes.2 (Option.join_eq_some_iff.mp hi)
    | nothing => exact nomatch hi

/-! ### Reading and binding -/

/-- A name that can be seen stands for a sound item. -/
theorem readName (strict : Bool) (hp : p.IsSound σ) (h : p.sees σ name = true ∨ E.has .broken) :
    Looks E σ (fun i => i.IsSound E σ) (readName strict p name) := by
  refine (framesOf hp).seq fun frames hframes => ?_
  split
  · next hvalue => exact pure (isSound_of_valueIn hframes.2 hvalue)
  · exact pure (.undefined strict)
  · next hvalue =>
    refine Abides.throw (h.resolve_left fun hsees => ?_)
    rw [← hframes.1] at hsees
    obtain ⟨v, hv⟩ := exists_valueIn hsees
    exact nomatch hvalue.symm.trans hv

theorem map_setValue {values : List (Text × Option Item)} (h : name ∈ values.map (·.1)) :
    (setValue name item values).map (·.1) = values.map (·.1) := by
  induction values with
  | nil => cases h
  | cons x values ih =>
    obtain ⟨n, v⟩ := x
    rw [setValue]
    split
    · rfl
    · next hne =>
      rw [List.map_cons, List.map_cons, ih ((List.mem_cons.mp h).resolve_left (Ne.symm hne))]

theorem mem_setValue {values : List (Text × Option Item)} {x : Text × Option Item}
    (h : x ∈ setValue name item values) : x ∈ values ∨ x.2 = some item := by
  induction values with
  | nil =>
    obtain rfl := List.mem_singleton.mp h
    exact .inr rfl
  | cons y values ih =>
    obtain ⟨n, v⟩ := y
    rw [setValue] at h
    split at h
    · rcases List.mem_cons.mp h with rfl | h
      · exact .inr rfl
      · exact .inl (.tail _ h)
    · rcases List.mem_cons.mp h with rfl | h
      · exact .inl (.head _)
      · exact (ih h).imp_left (.tail _)

/-- A name of the innermost scope can be bound to a sound item. -/
theorem bindName (isExported : Bool) (hp : p.IsSound σ) (h : p.owns σ name = true)
    (hitem : item.IsSound E σ) : Looks E σ (fun _ => True) (bindName p name item isExported) := by
  have htop : Looks E σ (fun _ => True) (if p.isTop = true then do
      let c ← Template.contextAt p.context
      Template.setCell p.context (.context (c.bind name item (isExported && name.head? ≠ some '_')))
    else Pure.pure ⟨⟩ : Work Unit) := by
    split
    · refine (contextAt hp.context).seq fun c hc => setCell hp.context (.context ?_)
      intro x hx
      rcases List.mem_append.mp hx with hx | hx
      · rcases List.mem_cons.mp hx with rfl | hx
        · exact hitem
        · exact hc x (List.mem_append_left _ (List.mem_filter.mp hx).1)
      · exact hc x (List.mem_append_right _ hx)
    · exact pure trivial
  rw [Place.owns] at h
  rw [Template.bindName]
  cases hscopes : p.scopes with
  | nil =>
    rw [hscopes] at h
    cases h
  | cons a scopes =>
    rw [hscopes] at h
    obtain ⟨names, ha⟩ := hp.scopes a (hscopes ▸ .head _)
    refine (cellAt ha).seq fun c hc => ?_
    cases hc with | @frame f hf =>
    have hname : name ∈ f.names := by
      simpa [Shapes.namesOf_eq ha] using h
    have hnames : Frame.names { f with values := setValue name item f.values } = f.names :=
      map_setValue hname
    have hsound : Frame.IsSound E σ { f with values := setValue name item f.values } := by
      intro x hx i hi
      rcases mem_setValue hx with hx | hx
      · exact hf x hx i hi
      · rw [hx] at hi
        cases hi
        exact hitem
    exact (setCell ha (hnames ▸ .frame hsound)).seq fun _ _ => htop

/-- No sound item is a namespace. -/
theorem spaceNamed (hp : p.IsSound σ) : Looks E σ (fun _ => False) (spaceNamed p name) := by
  refine (framesOf hp).seq fun frames hframes => ?_
  split
  · next a hvalue =>
    have hitem := isSound_of_valueIn hframes.2 (Option.join_eq_some_iff.mp hvalue)
    refine (cellAt_ref hitem).seq fun c hc => ?_
    split
    · rcases hc with hc | ⟨hc, -⟩ <;> cases hc
    · exact Abides.throw E.misuse
  · exact Abides.throw E.misuse

/-- A target is checked without finding more than that it is misused. -/
theorem checkTarget (hp : p.IsSound σ) (target : Target) :
    Looks E σ (fun _ => True) (checkTarget p target) := by
  rw [Template.checkTarget]
  cases target.objects with
  | nil => exact pure trivial
  | cons object objects =>
    have hobject : Looks E σ (fun _ => False) (do let _ ← Template.spaceNamed p object) :=
      (spaceNamed hp).seq fun _ h => h.elim
    exact hobject.seq fun _ h => h.elim

mutual

/-- A target whose names belong to the innermost scope can be bound to a sound item. -/
theorem bindTarget {item : Item} (hp : p.IsSound σ) (hitem : item.IsSound E σ) (target : Target)
    (hbinds : ∀ n ∈ target.names, p.owns σ n = true) (hrisks : E.hasAll target.risks) :
    Looks E σ (fun _ => True) (bindTarget p item target) := by
  cases target with
  | name s => exact bindName true hp (hbinds s (.head _)) hitem
  | field object member => exact (spaceNamed hp).seq fun _ h => h.elim
  | tuple targets =>
    have hunfit : E.has .unfit := hrisks _ (.head _)
    have hbad : E.has .badValue := hrisks _ (.tail _ (.head _))
    refine (takeAll hunfit hitem).seq fun items hitems => Abides.guard hbad fun _ => ?_
    refine bindTargets hp hitems targets hbinds fun target _ => ?_
    cases target <;> simp [Reckoning.hasAll, Target.risks, hunfit, hbad]

theorem bindTargets {items : List Item} (hp : p.IsSound σ) (hitems : AreSound E σ items)
    (targets : List Target) (hbinds : ∀ n ∈ Target.namesOfAll targets, p.owns σ n = true)
    (hrisks : ∀ target ∈ targets, E.hasAll target.risks) :
    Looks E σ (fun _ => True) (bindTargets p items targets) := by
  cases targets with
  | nil => cases items <;> exact pure trivial
  | cons target targets =>
    cases items with
    | nil => exact pure trivial
    | cons item items =>
      obtain ⟨hfirst, hrest⟩ := List.forall_mem_append.mp hbinds
      obtain ⟨hitem, hitems⟩ := List.forall_mem_cons.mp hitems
      obtain ⟨htarget, htargets⟩ := List.forall_mem_cons.mp hrisks
      exact (bindTarget hp hitem target hfirst htarget).seq fun _ _ =>
        bindTargets hp hitems targets hrest htargets

end

end Looks

/-- What is needed inside a scope is there once the scope is entered. -/
theorem Abides.enter (hp : p.IsSound σ) (hhanded : AreBound E σ handed)
    (hscope : (scope (p.sees σ)).Covers (p.sees σ) reads binds) (hrisks : E.hasAll risks) :
    Abides E σ (fun τ q => q.Bears E τ reads binds risks) (enter p scope handed) := by
  refine (Looks.newFrame hp hhanded).seq fun f hf => ?_
  refine (allocate (.frame hf.2)).bind fun τ a hgrows ha => pure ?_
  exact hp.inside hgrows (hf.1 ▸ ha) hscope hrisks

end Template

end Scaffold
