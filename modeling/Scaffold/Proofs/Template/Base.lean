import Scaffold.Template.Perform

/-!
# What the name of a template matters for

A template is carried out in the context of the one that is rendered, and the name of that one is
handed on. It is looked at in one place only: a base is told whose base it is, so that what asks
for its template in it, or in one of its blocks, gets the one that is rendered. So the name does
not matter as long as no template asks for its template which the rendered one is based on,
directly or through others.

Which templates these are can be told from the trees, and from those parts of them where a base may
be named. A constant names the template that it is; any other expression may name every one.

## Main results

* `Template.performTops_congr` — the top of a template under two names
* `Template.performTops_named` — what is found there is a base that is named there
* `Template.Engine.run_congr` — a template under two names
-/

namespace Scaffold

namespace Template

/-! ### Bases that are named -/

mutual

/-- The bases that are named in a statement at the top of a template, or in a choice there. -/
def Stmt.bases : Stmt → List Expr
  | .choice _ body others orElse => basesOfAll body ++ basesOfBranches others ++ basesOfAll orElse
  | .inherit template => [template]
  | _ => []

/-- The bases that are named in statements at the top. -/
def Stmt.basesOfAll : List Stmt → List Expr
  | [] => []
  | s :: ss => s.bases ++ basesOfAll ss

/-- The bases that are named in branches at the top. -/
def Stmt.basesOfBranches : List (Expr × List Stmt) → List Expr
  | [] => []
  | (_, body) :: rest => basesOfAll body ++ basesOfBranches rest

end

/-- Whether an expression may stand for the name of a template. -/
def Expr.mayName (name : Text) : Expr → Bool
  | .string s => s = name
  | _ => true

/-- A template is found under a name that one of some expressions may stand for. -/
def IsNamedIn (find : Text → Except Fault Template) (bases : List Expr) (t : Template) : Prop :=
  ∃ e ∈ bases, ∃ name, e.mayName name = true ∧ find name = .ok t

/-- A template that statements can be based on, directly or through others. -/
inductive CanExtend (find : Text → Except Fault Template) : List Stmt → Template → Prop
  | direct {body t} (h : IsNamedIn find (Stmt.basesOfAll body) t) : CanExtend find body t
  | through {body t t'} (h : IsNamedIn find (Stmt.basesOfAll body) t)
      (h' : CanExtend find t.body t') : CanExtend find body t'

theorem isNamedIn_append_iff {find : Text → Except Fault Template} {bases bases' : List Expr}
    {t : Template} :
    IsNamedIn find (bases ++ bases') t ↔ IsNamedIn find bases t ∨ IsNamedIn find bases' t := by
  simp only [IsNamedIn, List.mem_append, or_and_right, exists_or]

/-! ### Templates that do not ask for their template -/

/-- Nothing in a template asks for the template it is in. -/
structure Template.IsSelfless (t : Template) : Prop where
  self_eq : t.self = none
  blocks_eq : ∀ x ∈ t.blocks, x.2.self = none

theorem BlockCode.rename_of_self_eq_none {code : BlockCode} (h : code.self = none)
    (name : Option Text) : { code with self := code.self.map fun _ => name } = code := by
  obtain ⟨body, usesSuper, self⟩ := code
  obtain rfl : self = none := h
  rfl

/-- A template that does not ask for its template is a base under any name. -/
theorem Template.IsSelfless.asBaseOf {t : Template} (h : t.IsSelfless) (name : Option Text) :
    t.asBaseOf name = t := by
  obtain ⟨body, self, blocks⟩ := t
  obtain rfl : self = none := h.self_eq
  have hblocks : blocks.map (fun x => (x.1, { x.2 with self := x.2.self.map fun _ => name })) =
      blocks.map id :=
    List.map_congr_left fun x hx =>
      congrArg (Prod.mk x.1) (BlockCode.rename_of_self_eq_none (h.blocks_eq x hx) name)
  rw [List.map_id] at hblocks
  rw [Template.asBaseOf]
  exact congrArg (Template.mk body none) hblocks

/-! ### Steps one after the other -/

section Steps

variable {α β : Type} {x : Work α} {s : State}

theorem bind_eq_ok_iff {f : α → Work β} {r : β} {s' : State} :
    (x >>= f) s = .ok r s' ↔ ∃ a s₁, x s = .ok a s₁ ∧ f a s₁ = .ok r s' := by
  simp only [bind, EStateM.bind]
  cases x s with
  | error e s₁ => simp
  | ok a s₁ =>
    constructor
    · exact fun h => ⟨a, s₁, rfl, h⟩
    · rintro ⟨_, _, ⟨⟩, h⟩
      exact h

/-- What comes second need only agree on what the first step can come to. -/
theorem bind_congr_of_ok {f g : α → Work β} (h : ∀ a s', x s = .ok a s' → f a s' = g a s') :
    (x >>= f) s = (x >>= g) s := by
  simp only [bind, EStateM.bind]
  cases hx : x s with
  | error e s' => rfl
  | ok a s' => exact h a s' hx

theorem throw_ne_ok {f : Fault} {a : α} {s' : State} : (throw f : Work α) s ≠ .ok a s' := nofun

theorem lift_eq_ok_iff {e : Except Fault α} {a : α} {s' : State} :
    lift e s = .ok a s' ↔ e = .ok a ∧ s = s' := by
  cases e with
  | error f => simp [lift]
  | ok a => simp [lift]

end Steps

/-! ### The top of a template -/

variable {eng : Engine} {a b : Option Text} {p : Place}

/-- What an expression stands for is what it may name. -/
theorem mayName_of_eval {held : Item} {e : Expr} {s s' : State} {safe : Bool} {name : Text}
    (h : eval eng p held e s = .ok (.text safe name) s') : e.mayName name = true := by
  cases e with
  | string text =>
    rw [eval] at h
    cases h
    simp [Expr.mayName]
  | _ => rfl

theorem text_of_templateNamed {item : Item} {s s' : State} {found : Text × Template}
    (h : templateNamed eng item s = .ok found s') :
    (∃ safe, item = .text safe found.1) ∧ eng.find found.1 = .ok found.2 := by
  rw [templateNamed.eq_def] at h
  split at h
  · next safe name =>
    obtain ⟨t, s₁, ht, hfound⟩ := bind_eq_ok_iff.mp h
    cases hfound
    rw [lift_eq_ok_iff] at ht
    exact ⟨⟨safe, rfl⟩, ht.1⟩
  · -- whatever else there is, it ends in a fault
    split at h <;> simp [bind_eq_ok_iff, throw_ne_ok] at h

/-- A template that is named by what an expression stands for is one that it may name. -/
theorem named_of_eval {template : Expr} {item : Item} {s₁ s₂ s s' : State}
    {found : Text × Template} (hitem : eval eng p .null template s₁ = .ok item s₂)
    (h : templateNamed eng item s = .ok found s') : IsNamedIn eng.find [template] found.2 := by
  obtain ⟨⟨safe, rfl⟩, hfind⟩ := text_of_templateNamed h
  exact ⟨template, List.mem_singleton_self _, found.1, mayName_of_eval hitem, hfind⟩

mutual

theorem performTop_congr {stmt : Stmt}
    (h : ∀ t, IsNamedIn eng.find stmt.bases t → t.asBaseOf a = t.asBaseOf b) :
    performTop eng p a stmt = performTop eng p b stmt := by
  cases stmt with
  | inherit template =>
    rw [Stmt.bases] at h
    have hbase : ∀ item s₁ s₂, eval eng p .null template s₁ = .ok item s₂ →
        inheritFrom eng p a item = inheritFrom eng p b item := by
      intro item s₁ s₂ hitem
      funext s
      refine bind_congr_of_ok fun found s' hfound => ?_
      simp only [h _ (named_of_eval hitem hfound)]
    have hrest : (do
          let item ← eval eng p .null template
          return some (← inheritFrom eng p a item)) = (do
          let item ← eval eng p .null template
          return some (← inheritFrom eng p b item)) :=
      funext fun s => bind_congr_of_ok fun item s' hitem => by rw [hbase item s s' hitem]
    simp only [performTop, hrest]
  | choice test body others orElse =>
    simp only [Stmt.bases, isNamedIn_append_iff, or_imp, forall_and] at h
    obtain ⟨⟨hbody, hothers⟩, horElse⟩ := h
    simp only [performTop, performTops_congr hbody, performFirstTop_congr hothers,
      performTops_congr horElse]
  | _ => simp only [performTop]

/-- **The top of a template does the same under two names** if no base that is named there makes a
difference between them. -/
theorem performTops_congr {stmts : List Stmt}
    (h : ∀ t, IsNamedIn eng.find (Stmt.basesOfAll stmts) t → t.asBaseOf a = t.asBaseOf b) :
    performTops eng p a stmts = performTops eng p b stmts := by
  cases stmts with
  | nil => simp only [performTops]
  | cons stmt rest =>
    simp only [Stmt.basesOfAll, isNamedIn_append_iff, or_imp, forall_and] at h
    simp only [performTops, performTop_congr h.1, performTops_congr h.2]

theorem performFirstTop_congr {branches : List (Expr × List Stmt)}
    (h : ∀ t, IsNamedIn eng.find (Stmt.basesOfBranches branches) t →
      t.asBaseOf a = t.asBaseOf b) :
    performFirstTop eng p a branches = performFirstTop eng p b branches := by
  cases branches with
  | nil => simp only [performFirstTop]
  | cons branch rest =>
    obtain ⟨test, body⟩ := branch
    simp only [Stmt.basesOfBranches, isNamedIn_append_iff, or_imp, forall_and] at h
    simp only [performFirstTop, performTops_congr h.1, performFirstTop_congr h.2]

end

mutual

theorem performTop_named {stmt : Stmt} {s s' : State} {base : Template}
    (h : performTop eng p a stmt s = .ok (some base) s') :
    ∃ t, IsNamedIn eng.find stmt.bases t ∧ base = t.asBaseOf a := by
  cases stmt with
  | inherit template =>
    simp only [performTop] at h
    obtain ⟨isKnown, s₁, -, h⟩ := bind_eq_ok_iff.mp h
    split at h
    · simp [bind_eq_ok_iff, throw_ne_ok] at h
    · obtain ⟨item, s₂, hitem, h⟩ := bind_eq_ok_iff.mp h
      obtain ⟨base', s₃, hbase, h⟩ := bind_eq_ok_iff.mp h
      cases h
      obtain ⟨found, s₄, hfound, h⟩ := bind_eq_ok_iff.mp hbase
      obtain ⟨c, s₅, -, h⟩ := bind_eq_ok_iff.mp h
      obtain ⟨-, s₆, -, h⟩ := bind_eq_ok_iff.mp h
      obtain ⟨-, s₇, -, h⟩ := bind_eq_ok_iff.mp h
      cases h
      exact ⟨found.2, named_of_eval hitem hfound, rfl⟩
  | choice test body others orElse =>
    simp only [performTop] at h
    simp only [Stmt.bases, isNamedIn_append_iff]
    obtain ⟨item, s₁, -, h⟩ := bind_eq_ok_iff.mp h
    obtain ⟨isTaken, s₂, -, h⟩ := bind_eq_ok_iff.mp h
    split at h
    · obtain ⟨t, ht, hbase⟩ := performTops_named h
      exact ⟨t, .inl (.inl ht), hbase⟩
    · obtain ⟨branch, s₃, hbranch, h⟩ := bind_eq_ok_iff.mp h
      split at h
      · cases h
        obtain ⟨t, ht, hbase⟩ := performFirstTop_named hbranch
        exact ⟨t, .inl (.inr ht), hbase⟩
      · obtain ⟨t, ht, hbase⟩ := performTops_named h
        exact ⟨t, .inr ht, hbase⟩
  | _ =>
    simp only [performTop] at h
    obtain ⟨-, s₁, -, h⟩ := bind_eq_ok_iff.mp h
    cases h

/-- **The base that is found** at the top of a template is one that is named there, as the base of
the template with the name. -/
theorem performTops_named {stmts : List Stmt} {s s' : State} {base : Template}
    (h : performTops eng p a stmts s = .ok (some base) s') :
    ∃ t, IsNamedIn eng.find (Stmt.basesOfAll stmts) t ∧ base = t.asBaseOf a := by
  cases stmts with
  | nil =>
    simp only [performTops] at h
    cases h
  | cons stmt rest =>
    simp only [performTops] at h
    simp only [Stmt.basesOfAll, isNamedIn_append_iff]
    obtain ⟨first, s₁, hfirst, h⟩ := bind_eq_ok_iff.mp h
    obtain ⟨behind, s₂, hbehind, h⟩ := bind_eq_ok_iff.mp h
    cases first with
    | some base' =>
      cases h
      obtain ⟨t, ht, hbase⟩ := performTop_named hfirst
      exact ⟨t, .inl ht, hbase⟩
    | none =>
      cases h
      obtain ⟨t, ht, hbase⟩ := performTops_named hbehind
      exact ⟨t, .inr ht, hbase⟩

theorem performFirstTop_named {branches : List (Expr × List Stmt)} {s s' : State} {base : Template}
    (h : performFirstTop eng p a branches s = .ok (some (some base)) s') :
    ∃ t, IsNamedIn eng.find (Stmt.basesOfBranches branches) t ∧ base = t.asBaseOf a := by
  cases branches with
  | nil =>
    simp only [performFirstTop] at h
    cases h
  | cons branch rest =>
    obtain ⟨test, body⟩ := branch
    simp only [performFirstTop] at h
    simp only [Stmt.basesOfBranches, isNamedIn_append_iff]
    obtain ⟨item, s₁, -, h⟩ := bind_eq_ok_iff.mp h
    obtain ⟨isTaken, s₂, -, h⟩ := bind_eq_ok_iff.mp h
    split at h
    · obtain ⟨base', s₃, hbase', h⟩ := bind_eq_ok_iff.mp h
      cases h
      obtain ⟨t, ht, hbase⟩ := performTops_named hbase'
      exact ⟨t, .inl ht, hbase⟩
    · obtain ⟨t, ht, hbase⟩ := performFirstTop_named h
      exact ⟨t, .inr ht, hbase⟩

end

/-! ### Templates -/

/-- A template does the same under two names if all bases that are named at its top do, and none
of them makes a difference between the names. -/
theorem runTemplate_congr {t : Template} {context : Address}
    (h : ∀ t', IsNamedIn eng.find (Stmt.basesOfAll t.body) t' →
      t'.asBaseOf a = t'.asBaseOf b ∧
        eng.run a (t'.asBaseOf a) context = eng.run b (t'.asBaseOf a) context) :
    runTemplate eng a t context = runTemplate eng b t context := by
  have htop : ∀ p, performTops eng p a t.body = performTops eng p b t.body :=
    fun p => performTops_congr fun t' ht' => (h t' ht').1
  funext s
  rw [runTemplate, runTemplate]
  refine bind_congr_of_ok fun base s₁ _ => bind_congr_of_ok fun p s₂ _ => ?_
  rw [← htop]
  refine bind_congr_of_ok fun found s₃ hfound => ?_
  cases found with
  | none => rfl
  | some base =>
    obtain ⟨t', ht', rfl⟩ := performTops_named hfound
    exact congrFun (h t' ht').2 s₃

theorem Engine.find_ofDepth (strict : Bool) (find : Text → Except Fault Template) (depth : Nat) :
    (Engine.ofDepth strict find depth).find = find := by
  cases depth <;> rfl

/-- **The name does not matter** at any level, unless a template asks for its template which the
rendered one can be based on. -/
theorem Engine.run_congr {strict : Bool} {find : Text → Except Fault Template} {t : Template}
    (h : ∀ t', CanExtend find t.body t' → t'.IsSelfless) (depth : Nat) (context : Address) :
    (Engine.ofDepth strict find depth).run a t context =
      (Engine.ofDepth strict find depth).run b t context := by
  induction depth generalizing t with
  | zero => rfl
  | succ n ih =>
    refine runTemplate_congr fun t' ht' => ?_
    rw [Engine.find_ofDepth] at ht'
    have hself : t'.IsSelfless := h t' (.direct ht')
    rw [hself.asBaseOf, hself.asBaseOf]
    exact ⟨rfl, ih fun t'' ht'' => h t'' (.through ht' ht'')⟩

end Template

end Scaffold
