import Scaffold.Proofs.Template.Missing.Lookup

/-!
# Statements whose references are served

Statements look templates up by their references. Where all of those lead to a template, and those
in that template do, and so on, rendering does not come to one that is missing. The references that
are followed are those in the text of a template, carried out or not, and those in the templates
that they may lead to; so what is served stays served all the way down, and an engine of any depth
finds every template.

## Main definitions

* `Template.Template.IsSupplied` — a template that refers to nothing that is missing

## Main results

* `Template.FindsAll.perform` — a statement whose references are served
* `Template.Supplies.performTops` — the top of a template, and the base that it names
* `Template.FindsAll.runTemplate` — a template with the ones that it is based on
* `Template.Engine.IsServing.ofDepth` — the engines that render
-/

namespace Scaffold

namespace Template

open Item

variable {find : Text → Except Fault Template} {has : Text → Bool} {ok : List Stmt → Prop}
  {eng : Engine} {p : Place}

/-! ### Templates that are found -/

/-- Neither the statements of a template nor those of its blocks come to a template that is
missing. -/
structure Template.IsSupplied (ok : List Stmt → Prop) (t : Template) : Prop where
  body : ok t.body
  blocks : ∀ x ∈ t.blocks, ok x.2.body

/-- The statements of all blocks, those of a base included, are as told. -/
abbrev BlocksSupplied (ok : List Stmt → Prop) (blocks : List (Text × List BlockCode)) : Prop :=
  ∀ x ∈ blocks, ∀ code ∈ x.2, ok code.body

theorem BlocksSupplied.addBlock {blocks : List (Text × List BlockCode)} {name : Text}
    {code : BlockCode} (hcode : ok code.body) (h : BlocksSupplied ok blocks) :
    BlocksSupplied ok (Context.addBase.addBlock name code blocks) := by
  induction blocks with
  | nil => simpa [BlocksSupplied, Context.addBase.addBlock] using hcode
  | cons block rest ih =>
    rw [BlocksSupplied, List.forall_mem_cons] at h
    rw [Context.addBase.addBlock]
    split <;> rw [BlocksSupplied, List.forall_mem_cons]
    · refine ⟨fun code' hcode' => ?_, h.2⟩
      obtain hcode' | hcode' := List.mem_append.mp hcode'
      · exact h.1 code' hcode'
      · rwa [List.mem_singleton.mp hcode']
    · exact ⟨h.1, ih h.2⟩

namespace Template.IsSupplied

variable {t : Template}

theorem ofTemplate (h : t.IsSupplied ok) (given : List (Text × Item)) :
    Cell.IsSupplied ok (.context (.ofTemplate t given)) := by
  simp only [Cell.IsSupplied, Context.ofTemplate, List.forall_mem_map, List.mem_singleton,
    forall_eq]
  exact h.blocks

theorem asBaseOf (h : t.IsSupplied ok) (name : Option Text) : (t.asBaseOf name).IsSupplied ok := by
  refine ⟨h.body, ?_⟩
  simp only [Template.asBaseOf, List.forall_mem_map]
  exact h.blocks

theorem addBase (h : t.IsSupplied ok) {c : Context} (hc : Cell.IsSupplied ok (.context c)) :
    Cell.IsSupplied ok (.context (c.addBase t)) :=
  List.foldlRecOn (motive := BlocksSupplied ok) _ _ hc
    fun _ hblocks x hx => BlocksSupplied.addBlock (h.blocks x hx) hblocks

end Template.IsSupplied

/-- What is found by a reference that is served is served as well. -/
theorem Engine.IsServing.isSupplied (heng : eng.IsServing find has) {refs : List Reference}
    (h : AreServed find has refs) {ref : Reference} (href : ref ∈ refs) {name : Text} {t : Template}
    (hname : ref.mayLeadTo name = true) (ht : find name = .ok t) :
    t.IsSupplied (Stmt.AreServed find has) :=
  have hbody := h.body href hname ht
  ⟨hbody, fun x hx => hbody.of_subset (heng.blocks ht x hx)⟩

namespace FindsAll

@[grind ←] theorem printItem (item : Item) : FindsAll ok (printItem p item) := by
  grind [Template.printItem]

@[grind ←] theorem putText (item : Item) : FindsAll ok (putText item) := by
  unfold Template.putText
  grind

@[grind ←] theorem namesAt : FindsAll ok (namesAt p) := by
  grind [Template.namesAt]

@[grind ←] theorem moduleAt (a : Address) : FindsAll ok (moduleAt a) := by
  grind [Template.moduleAt]

theorem get : FindsAll ok (get : Work State) := fun _ hs => ⟨hs, trivial⟩

theorem newModule (heng : eng.IsSupplied ok) (name : Text) {t : Template} (ht : t.IsSupplied ok)
    (given : List (Text × Item)) : FindsAll ok (newModule eng name t given) := by
  refine (allocate (ht.ofTemplate given)).bind fun context => ?_
  refine (captured (heng.run (some name) context ht.body)).bind fun output => ?_
  exact contextAt_bind fun c _ => allocate trivial

theorem sharedModule (heng : eng.IsSupplied ok) (name : Text) {t : Template}
    (ht : t.IsSupplied ok) : FindsAll ok (sharedModule eng name t) := by
  refine get.bind fun s => ?_
  split
  · exact pure _
  · refine (newModule heng name ht _).bind fun a => ?_
    exact Supplies.bind (Supplies.modify fun _ => rfl) fun _ _ => pure a

@[grind ←] theorem sizeOf? (item : Item) : FindsAll ok (sizeOf? item) := by
  unfold Template.sizeOf?
  grind

theorem blockHere (heng : eng.IsSupplied ok) (name : Text) (isScoped isRequired : Bool) :
    FindsAll ok (blockHere eng p name isScoped isRequired) := by
  refine (isBased p).bind fun _ => ite (pure ()) (contextAt_bind fun c hc => ?_)
  extract_lets inside
  have hinside (a : Address) : FindsAll ok (inside a) := by grind
  clear_value inside
  refine ite (namesAt.bind fun names => (allocate ?_).bind hinside) (hinside _)
  exact hc

theorem checkTarget (t : Target) : FindsAll ok (checkTarget p t) := by
  refine forM fun name => ?_
  exact (spaceNamed p name).bind fun _ => pure _

end FindsAll

/-! ### Loops -/

theorem Supplies.newLoop {stmt : Stmt} (h : ok [stmt]) (item : Item) (depth : Nat) :
    Supplies ok (fun l => Cell.IsSupplied ok (.loop l)) NotMissing (newLoop p stmt item depth) := by
  refine (FindsAll.sizeOf? item).andThen fun size => (FindsAll.takeLazily item).bind fun x hx => ?_
  obtain ⟨items, failure⟩ := x
  dsimp only
  refine pure ⟨fun again hagain => ?_, hx⟩
  cases (Option.mem_ite_none_right.mp hagain).2
  exact h

theorem FindsAll.loopOver (heng : eng.IsSupplied ok) {stmt : Stmt} (h : ok [stmt]) (item : Item)
    (depth : Nat) {body orElse : Place → Work Unit} (hbody : ∀ p, FindsAll ok (body p))
    (horElse : ∀ p, FindsAll ok (orElse p)) :
    FindsAll ok (loopOver eng p stmt item depth body orElse) := by
  unfold Template.loopOver
  split
  · refine (Supplies.newLoop h item depth).bind fun l hl => (allocate hl).bind fun a => ?_
    refine (allocate (c := .frame ⟨[], []⟩) trivial).bind fun frame => ?_
    refine (turns heng a _ true fun item => ?_).bind fun ran => ?_
    · refine (newFrame _ _ _).bind fun f => (setCell (c := .frame f) trivial).bind fun _ => ?_
      exact (bindTarget _ _ _).bind fun _ => hbody _
    · exact ite ((enter _ _ _).bind horElse) (pure ())
  · exact throw (by decide)

/-! ### References that are served -/

section References

variable {template : Expr} {refs : List Reference}

/-- A reference that is served leads to a template, all of whose references are served. -/
theorem Supplies.served (heng : eng.IsServing find has) (h : AreServed find has refs)
    (href : .direct template ∈ refs) :
    Supplies (Stmt.AreServed find has) (fun found => found.2.IsSupplied (Stmt.AreServed find has))
      NotMissing (eval eng p .null template >>= Template.templateNamed eng) := by
  refine (lookUpOne heng template).mono (fun found hfound => ?_) fun f hf hmissing => ?_
  · exact heng.isSupplied h href hfound.1 hfound.2
  · have hserved := h.isServed href
    rw [Reference.isServed, hf hmissing] at hserved
    cases hserved

namespace FindsAll

theorem includeTemplate (heng : eng.IsServing find has) {ignoreMissing : Bool} (withContext : Bool)
    (h : AreServed find has refs) (href : .choosing template ignoreMissing ∈ refs) :
    FindsAll (Stmt.AreServed find has) (do
      let item ← Template.eval eng p .null template
      includeTemplate eng p item ignoreMissing withContext) := by
  simp only [Template.includeTemplate]
  rw [← bind_assoc]
  refine (Supplies.lookUp heng template).bind fun r hr => ?_
  split
  · split
    · exact pure ()
    · next hignored =>
      have hserved := h.isServed href
      simp [Reference.isServed, hignored, hr.error rfl rfl] at hserved
  · next f hmissing => exact throw hmissing
  · next name t =>
    have ht := heng.isSupplied h href hr.1 hr.2
    refine ite (namesAt.bind fun names => (allocate (ht.ofTemplate names)).bind fun a => ?_) ?_
    · exact heng.run _ _ ht.body
    · refine (sharedModule heng.toIsSupplied name ht).bind fun a => (moduleAt a).bind fun m => ?_
      exact put _

theorem importedModule (heng : eng.IsServing find has) (withContext : Bool)
    (h : AreServed find has refs) (href : .direct template ∈ refs) :
    FindsAll (Stmt.AreServed find has) (do
      let item ← Template.eval eng p .null template
      importedModule eng p item withContext) := by
  simp only [Template.importedModule]
  rw [← bind_assoc]
  refine (Supplies.served heng h href).bind fun found ht => ite ?_ ?_
  · exact namesAt.bind fun names => newModule heng.toIsSupplied _ ht _
  · exact sharedModule heng.toIsSupplied _ ht

end FindsAll

theorem Supplies.inheritFrom (heng : eng.IsServing find has) (owner : Option Text)
    (h : AreServed find has refs) (href : .direct template ∈ refs) :
    Supplies (Stmt.AreServed find has) (Template.IsSupplied (Stmt.AreServed find has)) NotMissing
      (do
        let item ← eval eng p .null template
        inheritFrom eng p owner item) := by
  simp only [Template.inheritFrom]
  rw [← bind_assoc]
  refine (Supplies.served heng h href).bind fun found ht => ?_
  have hbase := ht.asBaseOf owner
  refine (Supplies.contextAt p.context).bind fun c hc => ?_
  refine (FindsAll.setCell (hbase.addBase hc)).andThen fun _ => ?_
  exact (FindsAll.setCell (c := .base true) trivial).andThen fun _ => pure hbase

end References

/-! ### Statements -/

namespace FindsAll

mutual

/-- A statement whose references are served finds every template. -/
theorem perform (heng : eng.IsServing find has) (p : Place) (s : Stmt)
    (h : AreServed find has s.references) :
    FindsAll (Stmt.AreServed find has) (perform eng p s) := by
  have heval {p : Place} (held : Item) (e : Expr) :
      FindsAll (Stmt.AreServed find has) (Template.eval eng p held e) :=
    eval heng.toIsSupplied held e
  rw [Template.perform.eq_def]
  cases s with
  | text s => exact putGuarded p s
  | print e =>
    dsimp only
    have hprint := (heval (p := p) .null e).bind fun item => printItem (p := p) item
    grind
  | loop target source test isRecursive body orElse =>
    have hself : Stmt.AreServed find has [.loop target source test isRecursive body orElse] := by
      rwa [Stmt.AreServed, Stmt.referencesOfAll, Stmt.referencesOfAll, List.append_nil]
    rw [Stmt.references, areServed_append_iff] at h
    refine (heval .null source).bind fun item => ?_
    exact loopOver heng.toIsSupplied hself item 0 (fun p => performAll heng p body h.1)
      fun p => performAll heng p orElse h.2
  | choice test body others orElse =>
    rw [Stmt.references, areServed_append_iff, areServed_append_iff] at h
    obtain ⟨⟨hthen, hothers⟩, horElse⟩ := h
    refine (heval .null test).bind fun x => (isTrue x).bind fun _ => ?_
    refine ite (performAll heng p body hthen) ?_
    refine (performFirst heng p others hothers).bind fun _ => ?_
    exact ite (performAll heng p orElse horElse) (pure ())
  | assign target value =>
    refine (checkTarget target).bind fun _ => (heval .null value).bind fun item => ?_
    exact bindTarget p item target
  | capture target filters body =>
    refine (enter _ _ _).bind fun inner => ?_
    refine (captured (performAll heng inner body h)).bind fun s => ?_
    cases filters with
    | none => exact bindTarget p _ target
    | some e =>
      refine (heval _ e).bind fun x => ite ?_ (bindTarget p _ target)
      exact (writtenText x).bind fun _ => bindTarget p _ target
  | routine name signature body =>
    refine (refTo (c := .routine _) ?_).bind fun item => bindName p name item true
    exact h
  | callWith signature callee arguments body =>
    refine (refTo (c := .routine _) ?_).bind fun caller => (heval .null callee).bind fun f => ?_
    · exact h
    · refine (evalArguments heng.toIsSupplied _ arguments).bind fun given => ?_
      refine (addNamed given callerName caller).bind fun given => ?_
      exact (callItem heng.toIsSupplied p f given).bind fun item => putText item
  | filtered filters body =>
    refine (enter _ _ _).bind fun inner => ?_
    refine (captured (performAll heng inner body h)).bind fun s => ?_
    exact (heval _ filters).bind fun item => putText item
  | binding targets values body =>
    refine (evalAll heng.toIsSupplied _ values).bind fun items => ?_
    refine (enter _ _ _).bind fun inner => ?_
    exact (bindTargets inner items targets).bind fun _ => performAll heng inner body h
  | escaping switch body =>
    refine (enter _ _ _).bind fun inner => (heval _ switch).bind fun x => ?_
    exact (isTrue x).bind fun escapes => performAll heng _ body h
  | block name isScoped isRequired body =>
    exact blockHere heng.toIsSupplied name isScoped isRequired
  | inherit => exact throw (by decide)
  | inclusion template ignoreMissing withContext =>
    exact includeTemplate heng withContext h List.mem_cons_self
  | moduleAs template name withContext =>
    have himport := importedModule (p := p) heng withContext h List.mem_cons_self
    simpa only [bind_assoc] using himport.bind fun a => bindName p name (.ref a) false
  | namesFrom template names withContext =>
    have himport := importedModule (p := p) heng withContext h List.mem_cons_self
    have hbind (m : Module) : FindsAll (Stmt.AreServed find has) (names.forM fun x =>
        Template.bindName p x.2 ((m.exports.lookup x.1).getD (.undefined eng.strict)) false) :=
      forM fun x => bindName p x.2 _ false
    simpa only [bind_assoc] using himport.bind fun a => (moduleAt a).bind hbind

theorem performAll (heng : eng.IsServing find has) (p : Place) (ss : List Stmt)
    (h : Stmt.AreServed find has ss) :
    FindsAll (Stmt.AreServed find has) (performAll eng p ss) := by
  rw [Template.performAll.eq_def]
  cases ss with
  | nil => exact pure ()
  | cons s ss =>
    rw [Stmt.AreServed, Stmt.referencesOfAll, areServed_append_iff] at h
    exact (perform heng p s h.1).bind fun _ => performAll heng p ss h.2

theorem performFirst (heng : eng.IsServing find has) (p : Place)
    (branches : List (Expr × List Stmt))
    (h : AreServed find has (Stmt.referencesOfBranches branches)) :
    FindsAll (Stmt.AreServed find has) (performFirst eng p branches) := by
  rw [Template.performFirst.eq_def]
  cases branches with
  | nil => exact pure false
  | cons branch rest =>
    obtain ⟨test, body⟩ := branch
    rw [Stmt.referencesOfBranches, areServed_append_iff] at h
    refine (eval heng.toIsSupplied _ test).bind fun x => (isTrue x).bind fun _ => ite ?_ ?_
    · exact (performAll heng p body h.1).bind fun _ => pure true
    · exact performFirst heng p rest h.2

end

end FindsAll

/-! ### The top of a template -/

namespace Supplies

/-- A base, if there is one, has nothing but references that are served. -/
abbrev BaseSupplied (ok : List Stmt → Prop) (base : Option Template) : Prop :=
  ∀ t, base = some t → t.IsSupplied ok

mutual

theorem performTop (heng : eng.IsServing find has) (p : Place) (owner : Option Text) (s : Stmt)
    (h : AreServed find has s.references) :
    Supplies (Stmt.AreServed find has) (BaseSupplied (Stmt.AreServed find has)) NotMissing
      (performTop eng p owner s) := by
  have hstmt : Supplies (Stmt.AreServed find has) (BaseSupplied (Stmt.AreServed find has))
      NotMissing (do Template.perform eng p s; return none) :=
    (FindsAll.perform heng p s h).andThen fun _ => pure nofun
  cases s with
  | inherit template =>
    have hbase := inheritFrom (p := p) heng owner h List.mem_cons_self
    have hsome : Supplies (Stmt.AreServed find has) (BaseSupplied (Stmt.AreServed find has))
        NotMissing (do
          let base ← (do
            let item ← eval eng p .null template
            Template.inheritFrom eng p owner item)
          return some base) :=
      hbase.bind fun base hbase => pure (by grind)
    rw [Template.performTop]
    refine (FindsAll.isBased p).andThen fun _ => ?_
    split
    · exact throw_bind (by decide)
    · simpa only [bind_assoc] using hsome
  | choice test body others orElse =>
    rw [Stmt.references, areServed_append_iff, areServed_append_iff] at h
    obtain ⟨⟨hthen, hothers⟩, horElse⟩ := h
    rw [Template.performTop]
    refine (FindsAll.eval heng.toIsSupplied _ test).andThen fun x => ?_
    refine (FindsAll.isTrue x).andThen fun _ => ite (performTops heng p owner body hthen) ?_
    refine (performFirstTop heng p owner others hothers).bind fun base hbase => ?_
    split
    · next base => exact pure (hbase base rfl)
    · exact performTops heng p owner orElse horElse
  | _ =>
    rw [Template.performTop.eq_def]
    exact hstmt

theorem performTops (heng : eng.IsServing find has) (p : Place) (owner : Option Text)
    (ss : List Stmt) (h : Stmt.AreServed find has ss) :
    Supplies (Stmt.AreServed find has) (BaseSupplied (Stmt.AreServed find has)) NotMissing
      (performTops eng p owner ss) := by
  rw [Template.performTops.eq_def]
  cases ss with
  | nil => exact pure nofun
  | cons s ss =>
    rw [Stmt.AreServed, Stmt.referencesOfAll, areServed_append_iff] at h
    refine (performTop heng p owner s h.1).bind fun base hbase => ?_
    refine (performTops heng p owner ss h.2).bind fun base' hbase' => pure fun t ht => ?_
    obtain ht | ht := Option.or_eq_some_iff.mp ht
    · exact hbase t ht
    · exact hbase' t ht.2

theorem performFirstTop (heng : eng.IsServing find has) (p : Place) (owner : Option Text)
    (branches : List (Expr × List Stmt))
    (h : AreServed find has (Stmt.referencesOfBranches branches)) :
    Supplies (Stmt.AreServed find has)
      (fun base => ∀ b, base = some b → BaseSupplied (Stmt.AreServed find has) b) NotMissing
      (performFirstTop eng p owner branches) := by
  rw [Template.performFirstTop.eq_def]
  cases branches with
  | nil => exact pure nofun
  | cons branch rest =>
    obtain ⟨test, body⟩ := branch
    rw [Stmt.referencesOfBranches, areServed_append_iff] at h
    refine (FindsAll.eval heng.toIsSupplied _ test).andThen fun x => ?_
    refine (FindsAll.isTrue x).andThen fun _ => ite ?_ (performFirstTop heng p owner rest h.2)
    refine (performTops heng p owner body h.1).bind fun base hbase => pure ?_
    rintro _ ⟨⟩
    exact hbase

end

end Supplies

/-! ### Engines -/

theorem FindsAll.runTemplate (heng : eng.IsServing find has) (owner : Option Text) {t : Template}
    (context : Address) (h : Stmt.AreServed find has t.body) :
    FindsAll (Stmt.AreServed find has) (runTemplate eng owner t context) := by
  refine (allocate (c := .base false) trivial).bind fun base => (enter _ _ _).bind fun p => ?_
  refine (Supplies.performTops heng _ owner t.body h).bind fun base hbase => ?_
  split
  · next base => exact heng.run owner context (hbase base rfl).body
  · exact pure ()

/-- The engine of any depth finds every template, as long as what it is given does. -/
theorem Engine.IsServing.ofDepth (strict : Bool)
    (hfound : ∀ name, has name = true →
      FailsAs (fun f => f ≠ .missingTemplate ∧ f ≠ .undefined) (find name))
    (hblocks : ∀ name t, find name = .ok t → ∀ x ∈ t.blocks,
      Stmt.referencesOfAll x.2.body ⊆ Stmt.referencesOfAll t.body) (depth : Nat) :
    (Engine.ofDepth strict find depth).IsServing find has := by
  have hdeep {α : Type} : FindsAll (α := α) (Stmt.AreServed find has) (throw .tooDeep) :=
    .throw (by decide)
  induction depth with
  | zero =>
    exact ⟨⟨fun _ _ => hdeep, fun _ _ => hdeep, fun _ _ _ _ => hdeep, fun _ _ _ => hdeep⟩, rfl,
      fun {_} => hfound _, fun {_ _} => hblocks _ _⟩
  | succ n ih =>
    refine ⟨⟨fun p e => .eval ih.toIsSupplied .null e, fun p h => .performAll ih p _ h,
      fun {stmt} p item depth h => ?_, fun owner context h => .runTemplate ih owner context h⟩, rfl,
      fun {_} => hfound _, fun {_ _} => hblocks _ _⟩
    simp only [Engine.ofDepth]
    cases stmt with
    | loop target source test isRecursive body orElse =>
      have hstmt := h
      rw [Stmt.AreServed, Stmt.referencesOfAll, Stmt.referencesOfAll, List.append_nil,
        Stmt.references, areServed_append_iff] at hstmt
      exact .loopOver ih.toIsSupplied h item depth (fun p => .performAll ih p body hstmt.1)
        fun p => .performAll ih p orElse hstmt.2
    | _ => exact .throw (by decide)

end Template

end Scaffold
