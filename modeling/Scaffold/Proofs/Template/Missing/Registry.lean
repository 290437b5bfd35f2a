import Scaffold.Proofs.Template.Missing.Perform
import Scaffold.Proofs.Template.Failure
import Scaffold.Proofs.Template.Registry

/-!
# Which template is missing

A name that nothing is registered under cannot be rendered, and the failure tells so. It tells the
name that was asked for, and it comes out no matter which template is missing: a template that is
registered can be blamed for one that it refers to and that is not. There is no other way for it to
be blamed. The template has, directly or through the ones that it may lead to, a reference that does
not lead to a template for sure.

## Main definitions

* `Template.Failure.Blames` — a failure that tells that a name is not registered
* `Template.Registry.HasLooseReference` — a template refers to one that may be missing

## Main results

* `Template.Registry.render_neverMissing` — rendering where all references are served
* `Template.Registry.renderNamed_blames` — which template is blamed
-/

namespace Scaffold

namespace Template

variable {ok : List Stmt → Prop}

/-! ### Variables -/

namespace Item

variable {α β : Type}

/-- A step of loading that keeps nothing for later which comes to a template that is missing. -/
def Loading.IsSupplied (ok : List Stmt → Prop) (m : Loading α) : Prop :=
  ∀ labels, FindsAll ok (m.run labels)

namespace Loading.IsSupplied

variable {m : Loading α} {f : α → Loading β}

theorem pure (a : α) : IsSupplied ok (Pure.pure a) := fun labels => FindsAll.pure (a, labels)

theorem bind (hm : IsSupplied ok m) (hf : ∀ a, IsSupplied ok (f a)) :
    IsSupplied ok (m >>= f) := by
  intro labels
  rw [StateT.run_bind]
  exact (hm labels).bind fun r => hf r.1 r.2

theorem lift {step : Work α} (h : FindsAll ok step) : IsSupplied ok (liftM step) :=
  fun _ => h.bind fun _ => FindsAll.pure _

theorem newCell {c : Cell} (h : c.IsSupplied ok) : IsSupplied ok (Item.newCell c) :=
  fun _ => (FindsAll.refTo h).bind fun _ => FindsAll.pure _

theorem get_bind {f : Labels → Loading β} (hf : ∀ labels, IsSupplied ok (f labels)) :
    IsSupplied ok (get >>= f) :=
  fun labels => hf labels labels

theorem modify (f : Labels → Labels) : IsSupplied ok (modify f : Loading PUnit) :=
  fun _ => FindsAll.pure _

mutual

theorem load (v : Value) : IsSupplied ok (Item.load v) := by
  rw [Item.load.eq_def]
  cases v with
  | list vs | set vs => exact (loadAll vs).bind fun items => newCell trivial
  | tuple vs => exact (loadAll vs).bind fun items => pure _
  | map label es =>
    cases label with
    | none => exact (loadEntries es).bind fun entries => newCell trivial
    | some label =>
      refine get_bind fun labels => ?_
      split
      · exact pure _
      · refine (lift (FindsAll.allocate (c := .map []) trivial)).bind fun a => ?_
        refine (modify _).bind fun _ => (loadEntries es).bind fun entries => ?_
        exact (lift (FindsAll.setCell (c := .map entries) trivial)).bind fun _ => pure _
  | cycle label ofMap =>
    refine get_bind fun labels => ?_
    split
    · exact pure _
    · refine newCell ?_
      split <;> trivial
  | _ => exact pure _

theorem loadAll (vs : List Value) : IsSupplied ok (Item.loadAll vs) := by
  rw [Item.loadAll.eq_def]
  cases vs with
  | nil => exact pure _
  | cons v vs => exact (load v).bind fun item => (loadAll vs).bind fun items => pure _

theorem loadEntries (es : List (Value × Value)) : IsSupplied ok (Item.loadEntries es) := by
  rw [Item.loadEntries.eq_def]
  cases es with
  | nil => exact pure _
  | cons entry es =>
    obtain ⟨k, v⟩ := entry
    refine (load k).bind fun key => (load v).bind fun item => ?_
    exact (loadEntries es).bind fun entries => pure _

end

end Loading.IsSupplied

end Item

theorem FindsAll.loadVariables (vars : List (Value × Value)) :
    FindsAll ok (loadVariables vars) := by
  refine (Item.Loading.IsSupplied.loadEntries vars []).bind fun r => mapM fun entry => ?_
  split
  · exact pure _
  · exact throw (by decide)

/-! ### Templates that cannot be used -/

/-- Faults that are told by trees. -/
def AreOfTrees (faults : List Fault) : Prop := ∀ f ∈ faults, f = .malformed ∨ f = .repeatedName

namespace AreOfTrees

@[grind ←] theorem nil : AreOfTrees [] := nofun

@[grind ←] theorem append {fs gs : List Fault} (h : AreOfTrees fs) (h' : AreOfTrees gs) :
    AreOfTrees (fs ++ gs) :=
  List.forall_mem_append.mpr ⟨h, h'⟩

@[grind ←] theorem malformed : AreOfTrees [.malformed] := by
  simp [AreOfTrees]

@[grind ←] theorem repeatedFaults (names : List Text) : AreOfTrees (repeatedFaults names) := by
  rw [Template.repeatedFaults]
  split
  · simp [AreOfTrees]
  · exact nil

@[grind ←] theorem unknownFaults (soft isKnown : Bool) :
    AreOfTrees (unknownFaults soft isKnown) := by
  grind [Template.unknownFaults]

mutual

theorem faults (soft : Bool) (e : Expr) : AreOfTrees (e.faults soft) := by
  cases e with
  | null | bool | integer | float | string | name => exact nil
  | list es | tuple es | joined es => exact faultsOfAll soft es
  | map es => exact faultsOfEntries soft es
  | unary _ e | member e => exact faults soft e
  | binary _ a b | both a b | either a b | item a b => exact (faults soft a).append (faults soft b)
  | compare e es => exact (faults soft e).append (faultsOfOperands soft es)
  | choice t y n =>
    exact ((faults true t).append (faults true y)).append (faultsOfOption true n)
  | slice a b c =>
    exact ((faultsOfOption soft a).append (faultsOfOption soft b)).append (faultsOfOption soft c)
  | call f args =>
    exact ((faults soft f).append (faultsOfArguments soft args)).append (repeatedFaults _)
  | filter s word args =>
    exact (((unknownFaults soft _).append (faultsOfOption soft s)).append
      (faultsOfArguments soft args)).append (repeatedFaults _)
  | test s word args =>
    exact (((unknownFaults soft _).append (faults soft s)).append
      (faultsOfArguments soft args)).append (repeatedFaults _)

theorem faultsOfAll (soft : Bool) (es : List Expr) : AreOfTrees (Expr.faultsOfAll soft es) := by
  cases es with
  | nil => exact nil
  | cons e es => exact (faults soft e).append (faultsOfAll soft es)

theorem faultsOfOption (soft : Bool) (e : Option Expr) :
    AreOfTrees (Expr.faultsOfOption soft e) := by
  cases e with
  | none => exact nil
  | some e => exact faults soft e

theorem faultsOfEntries (soft : Bool) (es : List (Expr × Expr)) :
    AreOfTrees (Expr.faultsOfEntries soft es) := by
  cases es with
  | nil => exact nil
  | cons entry es =>
    obtain ⟨k, v⟩ := entry
    exact ((faults soft k).append (faults soft v)).append (faultsOfEntries soft es)

theorem faultsOfOperands (soft : Bool) (es : List (Comparison × Expr)) :
    AreOfTrees (Expr.faultsOfOperands soft es) := by
  cases es with
  | nil => exact nil
  | cons operand es =>
    obtain ⟨c, e⟩ := operand
    exact (faults soft e).append (faultsOfOperands soft es)

theorem faultsOfArguments (soft : Bool) (args : List (Argument Expr)) :
    AreOfTrees (Expr.faultsOfArguments soft args) := by
  cases args with
  | nil => exact nil
  | cons a args =>
    have ha : AreOfTrees (Expr.faultsOfArgument soft a) := by
      cases a with
      | positional e | named _ e | spread e | spreadNamed e => exact faults soft e
    exact ha.append (faultsOfArguments soft args)

end

attribute [grind ←] faults faultsOfAll faultsOfOption faultsOfArguments

@[grind ←] theorem faultsOfSignature (sig : Signature) (body : List Stmt) :
    AreOfTrees (sig.faults body) := by
  grind [Signature.faults]

mutual

theorem faultsOfStmt (at' : Standing) (s : Stmt) : AreOfTrees (s.faults at') := by
  cases s with
  | loop target source test isRecursive body orElse =>
    have hbody := faultsOfStmts at'.inside body
    have horElse := faultsOfStmts at'.inside orElse
    grind [Stmt.faults]
  | choice test body others orElse =>
    have hbody := faultsOfStmts at'.inChoice body
    have hothers := faultsOfBranches at'.inChoice others
    have horElse := faultsOfStmts at'.inChoice orElse
    grind [Stmt.faults]
  | capture _ _ body | routine _ _ body | callWith _ _ _ body | block _ _ _ body =>
    have hbody := faultsOfStmts .kept body
    grind [Stmt.faults]
  | filtered _ body | binding _ _ body | escaping _ body =>
    have hbody := faultsOfStmts at'.inside body
    grind [Stmt.faults]
  | _ => grind [Stmt.faults]

theorem faultsOfStmts (at' : Standing) (ss : List Stmt) : AreOfTrees (Stmt.faultsOfAll at' ss) := by
  cases ss with
  | nil => exact nil
  | cons s ss => exact (faultsOfStmt at' s).append (faultsOfStmts at' ss)

theorem faultsOfBranches (at' : Standing) (branches : List (Expr × List Stmt)) :
    AreOfTrees (Stmt.faultsOfBranches at' branches) := by
  cases branches with
  | nil => exact nil
  | cons branch rest =>
    obtain ⟨test, body⟩ := branch
    exact ((faults true test).append (faultsOfStmts at' body)).append (faultsOfBranches at' rest)

end

theorem faultsAtTop (isSilent : Bool) (ss : List Stmt) : AreOfTrees (faultsAtTop isSilent ss) := by
  fun_induction Template.faultsAtTop <;> grind [faultsOfStmt]

end AreOfTrees

/-- The fault of a template that cannot be used is told by its tree. -/
theorem ofBody_failsAs (name : Option Text) (body : List Stmt) :
    FailsAs (fun f => f = .malformed ∨ f = .repeatedName) (ofBody name body) := by
  refine (ofBody_fails name body).mono (fun _ _ => trivial) fun f hf => ?_
  have htop := AreOfTrees.faultsAtTop false body
  unfold fault? at hf
  extract_lets twice faults at hf
  have hfaults : AreOfTrees faults := by grind
  split at hf
  · exact .inl (Option.some.inj hf).symm
  · exact hfaults f (List.mem_of_head? hf)

/-- The blocks of a template refer to nothing that the template does not refer to. -/
theorem references_of_ofBody {name : Option Text} {body : List Stmt} {t : Template}
    (h : ofBody name body = .ok t) : ∀ x ∈ t.blocks,
      Stmt.referencesOfAll x.2.body ⊆ Stmt.referencesOfAll t.body := by
  rw [ofBody] at h
  cases hfault : fault? body with
  | some f => simp [hfault] at h
  | none =>
    rw [hfault] at h
    cases h
    intro x hx ref href
    obtain ⟨b, hb, rfl⟩ := List.mem_map.mp hx
    exact Stmt.references_of_mem_blocksOfAll hb href

/-! ### Registries -/

/-- A failure blames a name if it tells that no template is registered under it. -/
def Failure.Blames (f : Failure) (name : Text) : Prop :=
  f.message = some (Text.of "No template registered as '" ++ name ++ ['\''])

theorem Failure.blames_iff {f : Failure} {name : Text} :
    f.Blames name ↔ f = .unregistered name := by
  cases f with
  | unregistered n => simp [Blames, message]
  | invalid n => simp [Blames, message, Text.of]
  | unrenderable n => cases n <;> simp [Blames, message, Text.of]
  | value f => simp [Blames, message]

namespace Registry

variable {r : Registry} {name : Text}

theorem lookup_isSome_iff : (r.templates.lookup name).isSome = true ↔ name ∈ r.names := by
  rw [List.lookup_isSome_iff, names, List.mem_map]
  exact ⟨fun ⟨x, hx, heq⟩ => ⟨x, hx, (eq_of_beq heq).symm⟩,
    fun ⟨x, hx, heq⟩ => ⟨x, hx, beq_iff_eq.mpr heq.symm⟩⟩

theorem exists_source (h : name ∈ r.names) :
    ∃ source, r.templates.lookup name = some source ∧
      r.find name = ofBody (some name) source.body := by
  obtain ⟨source, hsource⟩ := Option.isSome_iff_exists.mp (lookup_isSome_iff.mpr h)
  exact ⟨source, hsource, by rw [find, hsource]⟩

/-- A template is missing under no name but those that nothing is registered under. -/
theorem find_eq_missing (h : name ∉ r.names) : r.find name = .error .missingTemplate := by
  have hlookup := Option.not_isSome_iff_eq_none.mp (mt lookup_isSome_iff.mp h)
  rw [find, hlookup]

variable (r) in
/-- Whether something is registered under a name. -/
abbrev has (name : Text) : Bool := r.names.contains name

theorem isServing (depth : Nat) :
    (Engine.ofDepth r.strict r.find depth).IsServing r.find r.has := by
  refine .ofDepth r.strict (fun name hname => ?_) (fun name t ht => ?_) depth
  · obtain ⟨source, -, hfind⟩ := exists_source (List.contains_iff_mem.mp hname)
    rw [hfind]
    refine (ofBody_failsAs _ _).mono (fun _ _ => trivial) ?_
    rintro f (rfl | rfl) <;> decide
  · rw [find] at ht
    split at ht
    · exact references_of_ofBody ht
    · cases ht

/-- **A template whose references are served** is rendered without coming to one that is missing. -/
theorem render_neverMissing {t : Template} (owner : Option Text) (vars : List (Value × Value))
    (hcells : AreSupplied (Stmt.AreServed r.find r.has) r.cells)
    (ht : t.IsSupplied (Stmt.AreServed r.find r.has)) :
    NeverMissing (r.render owner t vars).1 := by
  have hwork : FindsAll (Stmt.AreServed r.find r.has) (do
      let given ← loadVariables vars
      let context ← allocate (.context (.ofTemplate t (given ++ commonNames)))
      (Engine.ofDepth r.strict r.find depth).run owner t context) := by
    refine (FindsAll.loadVariables vars).bind fun given => ?_
    refine (FindsAll.allocate (ht.ofTemplate _)).bind fun context => ?_
    exact (isServing depth).run owner context ht.body
  have hdone := hwork r.start hcells
  rw [render]
  split
  · trivial
  · next hrun =>
    rw [EStateM.run] at hrun
    rw [hrun] at hdone
    exact hdone.2

/-! ### What is blamed -/

variable (r) in
/-- A reference that can be reached from the template with a name, and that need not lead to a
template. -/
def HasLooseReference (name : Text) : Prop :=
  ∃ source, r.templates.lookup name = some source ∧
    ∃ ref, CanReach r.find (Stmt.referencesOfAll source.body) ref ∧ ref.isServed r.has = false

/-- Whether templates have loose references can be told one by one: where every reference in every
source is served, none can be reached that is not. -/
theorem not_hasLooseReference (h : ∀ x ∈ r.templates, ∀ ref ∈ Stmt.referencesOfAll x.2.body,
    ref.isServed r.has = true) : ¬r.HasLooseReference name := by
  have hserved {source : Source} {other : Text} (hsource : r.templates.lookup other = some source) :
      ∀ ref ∈ Stmt.referencesOfAll source.body, ref.isServed r.has = true :=
    h (other, source) (mem_of_lookup hsource)
  have hreach {refs : List Reference} {ref : Reference} (href : CanReach r.find refs ref) :
      (∀ ref ∈ refs, ref.isServed r.has = true) → ref.isServed r.has = true := by
    induction href with
    | here hmem => exact fun hrefs => hrefs _ hmem
    | through _ _ ht _ ih =>
      intro _
      rw [find] at ht
      split at ht
      · next source hsource =>
        rw [body_of_ofBody ht] at ih
        exact ih (hserved hsource)
      · cases ht
  rintro ⟨source, hsource, ref, href, hloose⟩
  rw [hreach href (hserved hsource)] at hloose
  cases hloose

theorem mapError_eq_error_iff {ε ε' α : Type} {x : Except ε α} {report : ε → ε'} {e : ε'} :
    x.mapError report = .error e ↔ ∃ f, x = .error f ∧ report f = e := by
  cases x <;> simp [Except.mapError]

/-- The name that is asked for is blamed if any template is missing, and in no other case. -/
theorem renderNamed_unregistered_iff {missing : Text} {vars : List (Value × Value)} :
    r.renderNamed name vars = .error (.unregistered missing) ↔ missing = name ∧
      (r.renderIfUsable (some name) (r.find name) vars).1 = .error .missingTemplate := by
  rw [renderNamed, useNamed]
  change Except.mapError _ (r.renderIfUsable (some name) (r.find name) vars).1 = _ ↔ _
  rw [mapError_eq_error_iff]
  constructor
  · rintro ⟨f, hf, hreport⟩
    split at hreport
    · next hmissing =>
      cases hreport
      exact ⟨rfl, hmissing ▸ hf⟩
    · split at hreport <;> cases hreport
  · rintro ⟨rfl, hmissing⟩
    exact ⟨.missingTemplate, hmissing, rfl⟩

/-- **Rendering a registered template** comes to one that is missing only by a loose reference. -/
theorem hasLooseReference_of_missing {source : Source} {vars : List (Value × Value)}
    (hcells : AreSupplied (Stmt.AreServed r.find r.has) r.cells)
    (hsource : r.templates.lookup name = some source)
    (h : (r.renderIfUsable (some name) (r.find name) vars).1 = .error .missingTemplate) :
    r.HasLooseReference name := by
  by_contra hserved
  have hrefs : AreServed r.find r.has (Stmt.referencesOfAll source.body) := fun ref href =>
    Bool.not_eq_false _ |>.mp fun hloose => hserved ⟨source, hsource, ref, href, hloose⟩
  have hfind : r.find name = ofBody (some name) source.body := by rw [find, hsource]
  cases hready : r.find name with
  | error f =>
    rw [hready] at h
    cases h
    have hfault := (ofBody_failsAs (some name) source.body).error (hfind ▸ hready)
    simp at hfault
  | ok t =>
    rw [hready] at h
    have hbody : t.body = source.body := body_of_ofBody (hfind ▸ hready)
    rw [← hbody] at hrefs
    have ht : t.IsSupplied (Stmt.AreServed r.find r.has) :=
      ⟨hrefs, fun x hx => hrefs.of_subset (references_of_ofBody (hfind ▸ hready) x hx)⟩
    exact (render_neverMissing (some name) vars hcells ht).ne h rfl

/-- Add sources under names, one after the other. One that cannot be parsed changes nothing. -/
def addAll (r : Registry) (sources : List (Text × Text)) : Registry :=
  sources.foldl (fun r x => (r.add x.1 x.2).toOption.getD r) r

theorem cells_addAll (r : Registry) (sources : List (Text × Text)) :
    (r.addAll sources).cells = r.cells := by
  refine List.foldlRecOn (motive := fun r' : Registry => r'.cells = r.cells) sources _ rfl ?_
  intro r' hr' x _
  rw [add]
  split
  · exact hr'
  · exact hr'

/-- A template that includes another one by its name, and does nothing else. -/
def inclusion? : List Stmt → Option (Text × Bool × Bool)
  | [.inclusion (.string name) ignoreMissing withContext] => some (name, ignoreMissing, withContext)
  | _ => none

theorem perform_inclusion {eng : Engine} {other : Text} (p : Place) (withContext : Bool)
    (h : eng.find other = .error .missingTemplate) :
    perform eng p (.inclusion (.string other) false withContext) = throw .missingTemplate := by
  have hlookUp : attempt (templateAmong eng (.plain other)) = pure (.error .missingTemplate) := by
    change attempt (do
      let t ← lift (eng.find other)
      modify fun state => { state with loaded := other :: state.loaded }
      return (other, t)) = _
    rw [h]
    rfl
  rw [perform, eval, pure_bind, includeTemplate, hlookUp, pure_bind]
  rfl

theorem runTemplate_inclusion (eng : Engine) {other : Text} (owner : Option Text) (c : Context)
    (withContext : Bool) (h : eng.find other = .error .missingTemplate) :
    ∃ state, runTemplate eng owner ⟨[.inclusion (.string other) false withContext], none, []⟩ 0
      ⟨#[.context c], [], [], []⟩ = .error .missingTemplate state := by
  simp only [runTemplate, performTops, performTop, perform_inclusion _ _ h]
  exact ⟨_, rfl⟩

/-- A template that includes one that is not registered, and that is the only one there is. -/
theorem render_inclusion {other : Text} (withContext : Bool) (hcells : r.cells = #[])
    (hmodules : r.modules = []) (h : r.find other = .error .missingTemplate) :
    (r.render (some name) ⟨[.inclusion (.string other) false withContext], none, []⟩ []).1 =
      .error .missingTemplate := by
  let t : Template := ⟨[.inclusion (.string other) false withContext], none, []⟩
  obtain ⟨state, hstate⟩ := runTemplate_inclusion (Engine.ofDepth r.strict r.find 239)
    (some name) (.ofTemplate t commonNames) withContext (by rw [Engine.find_ofDepth, h])
  have hwork : (do
      let given ← loadVariables []
      let context ← allocate (.context (.ofTemplate t (given ++ commonNames)))
      (Engine.ofDepth r.strict r.find depth).run (some name) t context : Work Unit).run r.start =
        .error .missingTemplate state := by
    rw [start, hcells, hmodules]
    exact hstate
  rw [render, hwork]

end Registry

end Template

end Scaffold
