import Scaffold.Proofs.Template.Evaluate

/-!
# Carrying out statements

At a place that has the names which it reads and binds, a statement comes to nothing but what it
risks. Each statement leaves the shapes of the cells as they are, so what holds of one of them holds
of all that follow each other, of the turns of a loop, and of a whole template.
-/

namespace Scaffold

namespace Template

variable {E : Reckoning} {σ : Shapes} {eng : Engine} {p : Place} {item : Item}

namespace Looks

theorem printItem (h : item.IsSound E σ) : Looks E σ (fun _ => True) (printItem p item) := by
  refine heap.seq fun cells hd => ?_
  have hwritten : FailsAs E.has
      (if p.escapes then item.escapedText cells else item.written cells) := by
    split
    · exact Item.escapedText_fails hd h
    · exact Item.written_fails hd h
  exact (lift hwritten).seq fun s _ => put s

theorem putText (hunfit : E.has .unfit) (item : Item) :
    Looks E σ (fun _ => True) (putText item) := by
  rw [Template.putText.eq_def]
  split
  · exact put _
  · exact Abides.throw hunfit

/-! ### Loops -/

variable {target : Target} {source : Expr} {test : Option Expr} {isRecursive : Bool}
  {body orElse : List Stmt}

theorem sizeOf? (h : item.IsSound E σ) : Looks E σ (fun _ => True) (sizeOf? item) := by
  have hcount : Looks E σ (fun _ => True) (do
      return (item.count (← Template.heap)).toOption : Work (Option Nat)) :=
    heap.seq fun _ _ => pure trivial
  rw [Template.sizeOf?.eq_def]
  dsimp only
  split
  · exact (cellAt_ref h).seq fun c _ => Abides.ite (fun _ => pure trivial) fun _ => hcount
  · exact hcount

/-- A loop over a sound item is over sound items. -/
theorem newLoop (hp : p.IsSound σ) (h : item.IsSound E σ) (depth : Nat)
    (hrisks : E.hasAll (.unfit :: target.risks ++ Expr.risksOfOption test)) :
    Looks E σ (fun l => l.IsSound E σ)
      (newLoop p (.loop target source test isRecursive body orElse) item depth) := by
  simp only [Reckoning.hasAll, List.cons_append, List.forall_mem_cons, List.forall_mem_append]
    at hrisks
  obtain ⟨hunfit, htarget, htest⟩ := hrisks
  refine (sizeOf? h).seq fun size _ => (takeLazily hunfit h).seq fun r hr => pure ?_
  exact {
    pending := hr.1
    failure := hr.2
    test := by
      intro t ht
      obtain ⟨e, he, rfl⟩ := Option.map_eq_some_iff.mp ht
      rw [he] at htest
      exact ⟨hp, htarget, htest⟩
    previous := Item.IsSoundIfAny.none
    current := .null
    ahead := Item.IsSoundIfAny.none }

end Looks

namespace Abides

/-- A step at every place that bears what it asks for. -/
abbrev AbidesAt (E : Reckoning) (reads binds : List Text) (risks : List Fault)
    (step : Place → Work Unit) : Prop :=
  ∀ {σ : Shapes} {p : Place}, p.Bears E σ reads binds risks → Abides E σ (fun _ _ => True) (step p)

/-- A step for statements at every place that bears what they ask for. -/
abbrev AbidesFor (E : Reckoning) (stmts : List Stmt) (step : Place → Work Unit) : Prop :=
  AbidesAt E (Stmt.readsOfAll stmts) (Stmt.bindsOfAll stmts) (Stmt.risksOfAll stmts) step

section Loop

variable {τ : Shapes} {target : Target} {source : Expr} {test : Option Expr} {isRecursive : Bool}
  {body orElse : List Stmt} {handed : List (Text × Item)} {frame : Address}
  {bodyStep orElseStep : Place → Work Unit}

/-- A turn makes the scope of the loop anew, with the same names. -/
theorem turn (hp : p.IsSound σ) (hhanded : AreBound E σ handed)
    (hframe : σ frame = some (.reserved
      ((Scope.ofLoop (p.sees σ) (handed.map (·.1)) target body).own.map (·.1))))
    (htarget : E.hasAll target.risks) (hrisks : E.hasAll (Stmt.risksOfAll body))
    (hbody : AbidesFor E body bodyStep) (hτ : σ.Grows τ) (hitem : item.IsSound E τ) :
    Abides E τ (fun _ _ => True) (do
      setCell frame (.frame (← newFrame p
        (fun outer => Scope.ofLoop outer (handed.map (·.1)) target body) handed))
      bindTarget { p with scopes := frame :: p.scopes, isTop := false } item target
      bodyStep { p with scopes := frame :: p.scopes, isTop := false }) := by
  have hp' := hp.grows hτ
  have hframe' := hτ frame _ hframe
  rw [← hp.sees_grows hτ] at hframe'
  refine (Looks.newFrame hp' (hhanded.grows hτ)).seq fun f hf => ?_
  rw [← hf.1] at hframe'
  have hmade : τ frame = some (.reserved f.names) ∨ τ frame = some (.frame f.names) := by
    rcases hframe' with h | ⟨names, hnames, h⟩
    · exact .inl h
    · cases hnames
      exact .inr h
  refine (setFrame hmade hf.2).bind fun υ _ hυ hframe => ?_
  have hinner := hp'.inside hυ (hf.1 ▸ hframe) Scope.covers_ofLoop hrisks
  have hbinds := List.forall_mem_append.mp hinner.binds
  refine (Looks.bindTarget hinner.place (hitem.grows hυ) target hbinds.1 htarget).seq fun _ _ => ?_
  exact hbody { hinner with binds := hbinds.2 }

/-- **A loop** abides by the shapes if its bodies do. -/
theorem loopOver (heng : eng.IsSound E) (hp : p.IsSound σ) (hitem : item.IsSound E σ) (depth : Nat)
    (hrisks : E.hasAll (Stmt.loop target source test isRecursive body orElse).risks)
    (hbody : AbidesFor E body bodyStep) (horElse : AbidesFor E orElse orElseStep) :
    Abides E σ (fun _ _ => True)
      (loopOver eng p (.loop target source test isRecursive body orElse) item depth bodyStep
        orElseStep) := by
  simp only [Reckoning.hasAll, Stmt.risks, List.cons_append, List.forall_mem_cons,
    List.forall_mem_append] at hrisks
  obtain ⟨hunfit, ⟨⟨⟨⟨hlooks, htarget⟩, -⟩, htest⟩, hbodyRisks⟩, horElseRisks⟩ := hrisks
  have hloop : E.hasAll (.unfit :: target.risks ++ Expr.risksOfOption test) := by
    simp only [Reckoning.hasAll, List.cons_append, List.forall_mem_cons, List.forall_mem_append]
    exact ⟨hunfit, htarget, htest⟩
  refine (Looks.newLoop hp hitem depth hloop).seq fun l hl => ?_
  refine (allocate (.loop hl)).bind fun σ₁ a h₁ ha => ?_
  have hhanded : AreBound E σ₁
      (if looksAtLoop isRecursive body orElse then [(loopName, .ref a)] else []) := by
    split
    · next hlooking =>
      rw [if_pos hlooking] at hlooks
      exact List.forall_mem_singleton.mpr (.loop ha (hlooks _ (.head _)))
    · exact .nil
  dsimp only
  generalize (if looksAtLoop isRecursive body orElse then [(loopName, .ref a)] else [] :
    List (Text × Item)) = handed at hhanded
  have hp₁ := hp.grows h₁
  refine (allocate (.reserved ((Scope.ofLoop (p.sees σ₁) (handed.map (·.1)) target body).own.map
    (·.1)) _)).bind fun σ₂ frame h₂ hframe => ?_
  rw [← hp₁.sees_grows h₂] at hframe
  have hp₂ := hp₁.grows h₂
  refine (turns heng (h₂.settled ha rfl) (fun τ item hτ hitem => turn hp₂ (hhanded.grows h₂) hframe
    htarget hbodyRisks hbody hτ hitem) _ _).bind fun σ₃ ran h₃ _ => ?_
  split
  · exact (enter (hp₂.grows h₃) .nil Scope.covers_ofBody horElseRisks).bind
      fun _ _ _ hq => horElse hq
  · exact pure trivial

end Loop

/-! ### Statements -/

mutual

/-- **A statement** comes to nothing but what it risks. -/
theorem perform {σ : Shapes} {p : Place} (heng : eng.IsSound E) (s : Stmt)
    (h : p.Bears E σ s.reads s.binds s.risks) :
    Abides E σ (fun _ _ => True) (perform eng p s) := by
  rw [Template.perform.eq_def]
  cases s with
  | text s => exact (Looks.putGuarded h.place s).abides fun _ _ => trivial
  | print e =>
    refine (Looks.isBased h.place).seq fun isBased _ => ?_
    split
    · exact pure trivial
    · refine (eval heng .null e h).bind fun _ _ _ hx => ?_
      exact (Looks.printItem hx).abides fun _ _ => trivial
  | loop target source test isRecursive body orElse =>
    have hsource : p.Bears E σ source.names [] source.risks :=
      h.less (fun _ hn => hn) (List.nil_subset _) fun _ hf => by simp [Stmt.risks, hf]
    refine (eval heng .null source hsource).bind fun τ x hτ hx => ?_
    exact loopOver heng (h.place.grows hτ) hx 0 h.risks (fun hq => performAll heng body hq)
      fun hq => performAll heng orElse hq
  | choice test body others orElse =>
    obtain ⟨h, horElse⟩ := h.split
    obtain ⟨h, hothers⟩ := h.split
    obtain ⟨htest, hbody⟩ := h.splitReads
    refine (eval heng .null test htest).thenTrue fun τ isTrue hτ => ?_
    split
    · exact performAll heng body (hbody.grows hτ)
    · refine (performFirst heng others (hothers.grows hτ)).bind fun υ isDone hυ _ => ?_
      split
      · exact performAll heng orElse ((horElse.grows hτ).grows hυ)
      · exact pure trivial
  | assign target value =>
    obtain ⟨hvalue, htarget⟩ := h.splitReads
    refine (Looks.checkTarget h.place target).seq fun _ _ => ?_
    refine (eval heng .null value hvalue).bind fun τ x hτ hx => ?_
    have htarget := htarget.grows hτ
    exact (Looks.bindTarget htarget.place hx target htarget.binds htarget.risks).abides
      fun _ _ => trivial
  | capture target filters body =>
    obtain ⟨hhead, hbody⟩ := List.forall_mem_append.mp h.risks
    obtain ⟨hhead, hfilters⟩ := List.forall_mem_append.mp hhead
    obtain ⟨hbroken, htarget⟩ := List.forall_mem_append.mp hhead
    have hplace : Place.IsSound σ { p with isGuarded := false } := { h.place with }
    refine (enter hplace .nil Scope.covers_ofBody hbody).bind fun τ q hτ hq => ?_
    refine (captured (performAll heng body hq)).bind fun υ s hυ _ => ?_
    have hbind (υ : Shapes) (x : Item) (hυ : τ.Grows υ) (hx : x.IsSound E υ) :
        Abides E υ (fun _ _ => True) (bindTarget p x target) := by
      have h := h.grows (hτ.trans hυ)
      exact (Looks.bindTarget h.place hx target h.binds htarget).abides fun _ _ => trivial
    cases filters with
    | none => exact hbind υ _ hυ (.text p.escapes s)
    | some e =>
      -- the names of the filters are those of the scope around this one, so they can be missed here
      have he : q.Bears E υ e.names [] e.risks := {
        place := hq.place.grows hυ
        reads := fun n hn => .inr (hbroken _ (by simp [Expr.namesOfOption, List.ne_nil_of_mem hn]))
        binds := fun _ hn => nomatch hn
        risks := hfilters }
      refine (eval heng (.text p.escapes s) e he).bind fun ω x hω hx => ?_
      split
      · exact (Looks.writtenText hx).seq fun s _ => hbind ω _ (hυ.trans hω) (.text true s)
      · exact hbind ω x (hυ.trans hω) hx
  | routine name signature body =>
    refine (refTo (.routine _)).bind fun τ x hτ hx => ?_
    have h := h.grows hτ
    exact (Looks.bindName true h.place (h.binds name (.head _)) hx).abides fun _ _ => trivial
  | filtered filters body =>
    obtain ⟨hhead, hbody⟩ := List.forall_mem_append.mp h.risks
    obtain ⟨hunfit, hfilters⟩ := List.forall_mem_cons.mp hhead
    have hrisks : E.hasAll (Stmt.risksOfAll body ++ filters.risks) :=
      List.forall_mem_append.mpr ⟨hbody, hfilters⟩
    refine (enter h.place .nil Scope.covers_ofFiltered hrisks).bind fun τ q hτ hq => ?_
    have hinner := hq.less (List.subset_append_left ..) (fun _ hn => hn)
      (List.subset_append_left ..)
    refine (captured (performAll heng body hinner)).bind fun υ s hυ _ => ?_
    have hfilters := (hq.less (List.subset_append_right ..) (List.nil_subset _)
      (List.subset_append_right ..)).grows hυ
    exact (eval heng (.text p.escapes s) filters hfilters).bind fun _ x _ _ =>
      (Looks.putText hunfit x).abides fun _ _ => trivial
  | binding targets values body =>
    obtain ⟨hhead, hbody⟩ := List.forall_mem_append.mp h.risks
    obtain ⟨htargets, hvalues⟩ := List.forall_mem_append.mp hhead
    refine (evalAll heng .null values { h with risks := hvalues }).bind fun τ items hτ hitems => ?_
    refine (enter (h.place.grows hτ) .nil Scope.covers_ofBinding hbody).bind fun υ q hυ hq => ?_
    obtain ⟨hnames, hbinds⟩ := List.forall_mem_append.mp hq.binds
    have hbind := Looks.bindTargets hq.place (AreSound.grows hitems hυ) targets hnames
      fun target htarget f hf => htargets f (List.mem_flatMap.mpr ⟨target, htarget, hf⟩)
    exact hbind.seq fun _ _ => performAll heng body { hq with binds := hbinds }
  | escaping switch body =>
    refine (enter h.place .nil Scope.covers_ofEscaping h.risks).bind fun τ q hτ hq => ?_
    obtain ⟨hswitch, hbody⟩ := hq.splitReads
    refine (eval heng .null switch hswitch).thenTrue fun υ _ hυ => ?_
    have hbody := hbody.grows hυ
    exact performAll heng body { hbody with place := { hbody.place with } }
  | callWith | block | inherit | inclusion | moduleAs | namesFrom => exact absurd h.risks E.isProper

/-- **Statements** come to nothing but what they risk. -/
theorem performAll {σ : Shapes} {p : Place} (heng : eng.IsSound E) (ss : List Stmt)
    (h : p.Bears E σ (Stmt.readsOfAll ss) (Stmt.bindsOfAll ss) (Stmt.risksOfAll ss)) :
    Abides E σ (fun _ _ => True) (performAll eng p ss) := by
  rw [Template.performAll.eq_def]
  cases ss with
  | nil => exact pure trivial
  | cons s ss =>
    obtain ⟨hs, hss⟩ := h.split
    exact (perform heng s hs).bind fun τ _ hτ _ => performAll heng ss (hss.grows hτ)

theorem performFirst {σ : Shapes} {p : Place} (heng : eng.IsSound E)
    (branches : List (Expr × List Stmt))
    (h : p.Bears E σ (Stmt.readsOfBranches branches) (Stmt.bindsOfBranches branches)
      (Stmt.risksOfBranches branches)) :
    Abides E σ (fun _ _ => True) (performFirst eng p branches) := by
  rw [Template.performFirst.eq_def]
  cases branches with
  | nil => exact pure trivial
  | cons branch branches =>
    obtain ⟨test, body⟩ := branch
    obtain ⟨h, hbranches⟩ := h.split
    obtain ⟨htest, hbody⟩ := h.splitReads
    refine (eval heng .null test htest).thenTrue fun τ isTrue hτ => ?_
    split
    · exact (performAll heng body (hbody.grows hτ)).bind fun _ _ _ _ => pure trivial
    · exact performFirst heng branches (hbranches.grows hτ)

end

/-! ### The top of a template -/

mutual

/-- At the top of a template, a statement that is carried out names no base. -/
theorem performTop {σ : Shapes} (heng : eng.IsSound E) (owner : Option Text) (s : Stmt)
    (h : p.Bears E σ s.reads s.binds s.risks) :
    Abides E σ (fun _ base => base = none) (performTop eng p owner s) := by
  rw [Template.performTop.eq_def]
  cases s with
  | inherit => exact absurd h.risks E.isProper
  | choice test body others orElse =>
    obtain ⟨h, horElse⟩ := h.split
    obtain ⟨h, hothers⟩ := h.split
    obtain ⟨htest, hbody⟩ := h.splitReads
    refine (eval heng .null test htest).thenTrue fun τ isTrue hτ => ?_
    split
    · exact performTops heng owner body (hbody.grows hτ)
    · refine (performFirstTop heng owner others (hothers.grows hτ)).bind fun υ base hυ hbase => ?_
      cases base with
      | some base => exact pure (hbase base rfl)
      | none => exact performTops heng owner orElse ((horElse.grows hτ).grows hυ)
  | _ => exact (perform heng _ h).bind fun _ _ _ _ => pure rfl

theorem performTops {σ : Shapes} (heng : eng.IsSound E) (owner : Option Text) (ss : List Stmt)
    (h : p.Bears E σ (Stmt.readsOfAll ss) (Stmt.bindsOfAll ss) (Stmt.risksOfAll ss)) :
    Abides E σ (fun _ base => base = none) (performTops eng p owner ss) := by
  rw [Template.performTops.eq_def]
  cases ss with
  | nil => exact pure rfl
  | cons s ss =>
    obtain ⟨hs, hss⟩ := h.split
    refine (performTop heng owner s hs).bind ?_
    rintro τ _ hτ rfl
    exact (performTops heng owner ss (hss.grows hτ)).bind fun _ _ _ hbase => pure hbase

theorem performFirstTop {σ : Shapes} (heng : eng.IsSound E) (owner : Option Text)
    (branches : List (Expr × List Stmt))
    (h : p.Bears E σ (Stmt.readsOfBranches branches) (Stmt.bindsOfBranches branches)
      (Stmt.risksOfBranches branches)) :
    Abides E σ (fun _ taken => ∀ base ∈ taken, base = none)
      (performFirstTop eng p owner branches) := by
  rw [Template.performFirstTop.eq_def]
  cases branches with
  | nil => exact pure fun _ hbase => nomatch hbase
  | cons branch branches =>
    obtain ⟨test, body⟩ := branch
    obtain ⟨h, hbranches⟩ := h.split
    obtain ⟨htest, hbody⟩ := h.splitReads
    refine (eval heng .null test htest).thenTrue fun τ isTrue hτ => ?_
    split
    · refine (performTops heng owner body (hbody.grows hτ)).bind ?_
      rintro υ _ hυ rfl
      exact pure fun _ hbase => (Option.some.inj hbase).symm
    · exact performFirstTop heng owner branches (hbranches.grows hτ)

end

/-- A template is handed itself where it reads itself, and nothing else. -/
theorem areBound_self {context : Address} (hcontext : σ context = some .context) (t : Template) :
    AreBound E σ (match t.self with
      | some name => [(Text.of "self", .self name context)]
      | none => []) := by
  split
  · exact List.forall_mem_singleton.mpr (.self _ hcontext)
  · exact .nil

/-- **A template** comes to nothing but what its statements risk. -/
theorem runTemplate {context : Address} (heng : eng.IsSound E) (owner : Option Text) (t : Template)
    (hcontext : σ context = some .context) (hrisks : E.hasAll (Stmt.risksOfAll t.body)) :
    Abides E σ (fun _ _ => True) (runTemplate eng owner t context) := by
  rw [Template.runTemplate]
  refine (allocate (.base false)).bind fun τ base hτ hbase => ?_
  have hplace : Place.IsSound τ ⟨[], context, base, false, true, false⟩ := {
    scopes := fun _ ha => absurd ha List.not_mem_nil
    context := hτ.settled hcontext rfl
    base := hbase }
  have hself : AreBound E τ _ := areBound_self hplace.context t
  refine (enter hplace hself Scope.covers_ofBody hrisks).bind fun υ p hυ hp => ?_
  have htop : Place.Bears E υ { p with isTop := true } (Stmt.readsOfAll t.body)
      (Stmt.bindsOfAll t.body) (Stmt.risksOfAll t.body) :=
    { hp with place := { hp.place with } }
  refine (performTops heng owner t.body htop).bind ?_
  rintro ω _ hω rfl
  exact pure trivial

end Abides

end Template

end Scaffold
