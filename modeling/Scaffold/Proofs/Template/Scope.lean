import Scaffold.Template.Scope

/-!
# What scopes have

Every name that is read in a scope can be seen there, and every name that is bound in it is its own.

## Main definitions

* `Template.Stmt.reads`, `Template.Stmt.binds` — the names in the scope that a statement stands in
* `Template.Scope.Covers` — a scope that has names for what is read and bound in it
-/

namespace Scaffold

namespace Template

/-! ### The names of statements -/

mutual

/-- The names that a statement reads in the scope it stands in. -/
def Stmt.reads : Stmt → List Text
  | .text _ | .escaping .. | .block .. | .routine .. => []
  | .print e | .loop _ e _ _ _ _ | .filtered e _ | .inherit e | .inclusion e _ _ | .moduleAs e _ _
  | .namesFrom e _ _ => e.names
  | .choice test body others orElse =>
    test.names ++ readsOfAll body ++ readsOfBranches others ++ readsOfAll orElse
  | .assign target value => value.names ++ target.objects
  | .capture target _ _ => target.objects
  | .callWith _ callee args _ => callee.names ++ Expr.namesOfArguments args
  | .binding _ values _ => Expr.namesOfAll values

/-- The names that statements read in their scope. -/
def Stmt.readsOfAll : List Stmt → List Text
  | [] => []
  | s :: ss => s.reads ++ readsOfAll ss

/-- The names that branches read in their scope. -/
def Stmt.readsOfBranches : List (Expr × List Stmt) → List Text
  | [] => []
  | (e, body) :: rest => e.names ++ readsOfAll body ++ readsOfBranches rest

end

mutual

/-- The names that a statement binds in the scope it stands in. -/
def Stmt.binds : Stmt → List Text
  | .choice _ body others orElse =>
    bindsOfAll body ++ bindsOfBranches others ++ bindsOfAll orElse
  | .assign target _ | .capture target _ _ => target.names
  | .routine name _ _ | .moduleAs _ name _ => [name]
  | .namesFrom _ names _ => names.map (·.2)
  | _ => []

/-- The names that statements bind in their scope. -/
def Stmt.bindsOfAll : List Stmt → List Text
  | [] => []
  | s :: ss => s.binds ++ bindsOfAll ss

/-- The names that branches bind in their scope. -/
def Stmt.bindsOfBranches : List (Expr × List Stmt) → List Text
  | [] => []
  | (_, body) :: rest => bindsOfAll body ++ bindsOfBranches rest

end

namespace Scope

variable {outer : Text → Bool} {s t u : Scope} {name : Text}
  {names reads binds reads' binds' : List Text}

theorem has_iff : s.has name ↔ name ∈ s.own.map (·.1) := by
  simp [has]

/-! ### Growing scopes -/

/-- A scope that has names for what is read and bound in it. -/
structure Covers (outer : Text → Bool) (s : Scope) (reads binds : List Text) : Prop where
  reads : ∀ n ∈ reads, s.has n ∨ outer n
  binds : ∀ n ∈ binds, s.has n

/-- A scope with more in it, for which it has names. -/
structure Extends (outer : Text → Bool) (s t : Scope) (reads binds : List Text) : Prop
    extends Covers outer t reads binds where
  keeps : ∀ n, s.has n → t.has n

namespace Covers

theorem of_keeps (h : Covers outer s reads binds) (hkeeps : ∀ n, s.has n → t.has n) :
    Covers outer t reads binds where
  reads n hn := (h.reads n hn).imp_left (hkeeps n)
  binds n hn := hkeeps n (h.binds n hn)

theorem append (h : Covers outer s reads binds) (h' : Covers outer s reads' binds') :
    Covers outer s (reads ++ reads') (binds ++ binds') where
  reads := List.forall_mem_append.mpr ⟨h.reads, h'.reads⟩
  binds := List.forall_mem_append.mpr ⟨h.binds, h'.binds⟩

end Covers

namespace Extends

theorem refl (outer : Text → Bool) (s : Scope) : Extends outer s s [] [] where
  reads _ hn := nomatch hn
  binds _ hn := nomatch hn
  keeps _ hn := hn

theorem trans (h : Extends outer s t reads binds) (h' : Extends outer t u reads' binds') :
    Extends outer s u (reads ++ reads') (binds ++ binds') where
  toCovers := (h.of_keeps h'.keeps).append h'.toCovers
  keeps n hn := h'.keeps n (h.keeps n hn)

/-- Names that are bound behind names that are read. -/
theorem andBinds (h : Extends outer s t reads []) (h' : Extends outer t u [] binds) :
    Extends outer s u reads binds := by
  simpa using h.trans h'

/-- Further names that are read. -/
theorem andReads (h : Extends outer s t reads binds) (h' : Extends outer t u reads' []) :
    Extends outer s u (reads ++ reads') binds := by
  simpa using h.trans h'

end Extends

/-! ### Single names -/

theorem mem_setOrigin (origin : Origin) (own : List (Text × Origin)) (n : Text) :
    n ∈ (setOrigin name origin own).map (·.1) ↔ n ∈ own.map (·.1) ∨ n = name := by
  induction own with
  | nil => simp [setOrigin]
  | cons x own ih =>
    obtain ⟨m, o⟩ := x
    rw [setOrigin]
    split
    · next heq => simp [heq, or_comm]
    · simp only [List.map_cons, List.mem_cons, ih, or_assoc]

theorem mem_foldl_setOrigin {α : Type} (toName : α → Text) (origin : α → Origin) (xs : List α)
    (own : List (Text × Origin)) (n : Text) :
    n ∈ (xs.foldl (fun own x => setOrigin (toName x) (origin x) own) own).map (·.1) ↔
      n ∈ own.map (·.1) ∨ n ∈ xs.map toName := by
  induction xs generalizing own with
  | nil => simp
  | cons x xs ih => rw [List.foldl_cons, ih, mem_setOrigin, List.map_cons, List.mem_cons, or_assoc]

theorem has_hand : (s.hand name).has name := by
  simp [has_iff, hand, mem_setOrigin]

theorem has_hand_of_has {n : Text} (h : s.has n) : (s.hand name).has n := by
  rw [has_iff] at h
  simp [has_iff, hand, mem_setOrigin, h]

theorem extends_hand : Extends outer s (s.hand name) [] [name] where
  reads _ hn := nomatch hn
  binds := List.forall_mem_singleton.mpr has_hand
  keeps _ hn := has_hand_of_has hn

theorem own_withBound : (s.withBound name).own = s.own := by
  rw [withBound]
  split <;> rfl

theorem extends_bind : Extends outer s (s.bind outer name) [] [name] where
  reads _ hn := nomatch hn
  binds := by
    refine List.forall_mem_singleton.mpr ?_
    rw [bind]
    split
    · next h => rwa [has_iff, own_withBound, ← has_iff]
    · simp [has_iff]
  keeps n hn := by
    rw [bind]
    split
    · rwa [has_iff, own_withBound, ← has_iff]
    · rw [has_iff] at hn
      simp [has_iff, own_withBound, hn]

theorem extends_read : Extends outer s (s.read outer name) [name] [] where
  reads := by
    refine List.forall_mem_singleton.mpr ?_
    rw [read]
    split
    · next h => exact Bool.or_eq_true_iff.mp h
    · exact .inl (by simp [has_iff])
  binds _ hn := nomatch hn
  keeps n hn := by
    rw [read]
    split
    · exact hn
    · rw [has_iff] at hn
      simp [has_iff, hn]

/-! ### Several names -/

theorem extends_readAll : Extends outer s (s.readAll outer names) names [] := by
  induction names generalizing s with
  | nil => exact .refl outer s
  | cons name names ih => exact extends_read.trans ih

theorem extends_foldl_bind :
    Extends outer s (names.foldl (bind outer) s) [] names := by
  induction names generalizing s with
  | nil => exact .refl outer s
  | cons name names ih => exact extends_bind.trans ih

theorem extends_foldl_hand : Extends outer s (names.foldl hand s) [] names := by
  induction names generalizing s with
  | nil => exact .refl outer s
  | cons name names ih => exact extends_hand.trans ih

theorem extends_bindTarget {target : Target} :
    Extends outer s (s.bindTarget outer target) target.objects target.names :=
  extends_foldl_bind.andReads extends_readAll

theorem extends_foldl_handTarget {targets : List Target} :
    Extends outer s (targets.foldl handTarget s) [] (Target.namesOfAll targets) := by
  induction targets generalizing s with
  | nil => exact .refl outer s
  | cons target targets ih => exact extends_foldl_hand.trans ih

/-! ### Choices -/

theorem has_foldl_union {acc : Scope} {branches : List Scope}
    (h : acc.has name ∨ ∃ b ∈ branches, b.has name) :
    (branches.foldl (fun acc b =>
      ⟨b.own.foldl (fun own (n, o) => setOrigin n o own) acc.own,
        b.bound.foldl (fun bound n => if bound.contains n then bound else bound ++ [n]) acc.bound⟩)
      acc).has name := by
  induction branches generalizing acc with
  | nil => simpa using h
  | cons b branches ih =>
    have hown : name ∈ (b.own.foldl (fun own (n, o) => setOrigin n o own) acc.own).map (·.1) ↔
        acc.has name ∨ b.has name := by
      rw [has_iff, has_iff]
      exact mem_foldl_setOrigin Prod.fst Prod.snd b.own acc.own name
    refine ih ?_
    rw [has_iff]
    exact (or_congr_left hown).mpr (by simpa [or_assoc] using h)

/-- After a choice there are the names that there were before it, and those of its branches. -/
theorem has_afterChoice {branches : List Scope} (h : s.has name ∨ ∃ b ∈ branches, b.has name) :
    (s.afterChoice outer branches).has name := by
  rw [has_iff]
  exact (mem_foldl_setOrigin id ..).mpr (.inl (has_iff.mp (has_foldl_union h)))

theorem Covers.afterChoice {branches : List Scope} (h : Covers outer t reads binds)
    (ht : t ∈ branches) : Covers outer (s.afterChoice outer branches) reads binds :=
  h.of_keeps fun _ hn => has_afterChoice (.inr ⟨t, ht, hn⟩)

/-! ### Statements -/

mutual

theorem extends_visit (s : Scope) (stmt : Stmt) :
    Extends outer s (s.visit outer stmt) stmt.reads stmt.binds := by
  cases stmt with
  | text | escaping | block => exact .refl outer s
  | print | loop | filtered | inherit | inclusion | binding => exact extends_readAll
  | choice test body others orElse =>
    have htest : Extends outer s (s.readAll outer test.names) test.names [] := extends_readAll
    have hbody := extends_visitAll (s.readAll outer test.names) body
    have hothers := extends_visitBranches (s.readAll outer test.names) others
    have horElse := extends_visitAll (s.readAll outer test.names) orElse
    exact {
      toCovers := (((htest.toCovers.of_keeps fun _ hn => has_afterChoice (.inl hn)).append
        (hbody.toCovers.afterChoice (.head _))).append
        (hothers.toCovers.afterChoice (.tail _ (.head _)))).append
        (horElse.toCovers.afterChoice (.tail _ (.tail _ (.head _))))
      keeps := fun n hn => has_afterChoice (.inl (htest.keeps n hn)) }
  | assign target value => exact extends_readAll.trans extends_bindTarget
  | capture target filters body => exact extends_bindTarget
  | routine name signature body => exact extends_bind
  | callWith signature callee args body => exact extends_readAll.trans extends_readAll
  | moduleAs template name => exact extends_readAll.andBinds extends_bind
  | namesFrom template names => exact extends_readAll.andBinds extends_foldl_bind

theorem extends_visitAll (s : Scope) (stmts : List Stmt) :
    Extends outer s (s.visitAll outer stmts) (Stmt.readsOfAll stmts) (Stmt.bindsOfAll stmts) := by
  cases stmts with
  | nil => exact .refl outer s
  | cons stmt stmts => exact (extends_visit s stmt).trans (extends_visitAll _ stmts)

theorem extends_visitBranches (s : Scope) (branches : List (Expr × List Stmt)) :
    Extends outer s (s.visitBranches outer branches) (Stmt.readsOfBranches branches)
      (Stmt.bindsOfBranches branches) := by
  cases branches with
  | nil => exact .refl outer s
  | cons branch branches =>
    obtain ⟨test, body⟩ := branch
    have htest : Extends outer s (s.readAll outer test.names) test.names [] := extends_readAll
    have hbody := extends_visitAll (s.readAll outer test.names) body
    have hchoice : Extends outer s (afterChoice outer (s.readAll outer test.names)
        [visitAll outer (s.readAll outer test.names) body, s.readAll outer test.names,
          s.readAll outer test.names])
        (test.names ++ Stmt.readsOfAll body) (Stmt.bindsOfAll body) := {
      toCovers := (htest.toCovers.of_keeps fun _ hn => has_afterChoice (.inl hn)).append
        (hbody.toCovers.afterChoice (.head _))
      keeps := fun n hn => has_afterChoice (.inl (htest.keeps n hn)) }
    exact hchoice.trans (extends_visitBranches _ branches)

end

/-! ### Bodies -/

variable {target : Target} {targets : List Target} {test filters switch : Expr} {body : List Stmt}
  {handed : List Text}

theorem covers_ofBody :
    Covers outer (ofBody outer handed body) (Stmt.readsOfAll body) (Stmt.bindsOfAll body) :=
  (extends_visitAll _ body).toCovers

theorem covers_ofLoop :
    Covers outer (ofLoop outer handed target body) (Stmt.readsOfAll body)
      (target.names ++ Stmt.bindsOfAll body) :=
  (extends_foldl_hand.trans (extends_visitAll _ body)).toCovers

theorem covers_ofLoopTest :
    Covers outer (ofLoopTest outer target test) test.names target.names :=
  (extends_foldl_hand.andReads extends_readAll).toCovers

theorem covers_ofBinding :
    Covers outer (ofBinding outer targets body) (Stmt.readsOfAll body)
      (Target.namesOfAll targets ++ Stmt.bindsOfAll body) :=
  (extends_foldl_handTarget.trans (extends_visitAll _ body)).toCovers

theorem covers_ofFiltered :
    Covers outer (ofFiltered outer filters body) (Stmt.readsOfAll body ++ filters.names)
      (Stmt.bindsOfAll body) :=
  ((extends_visitAll _ body).andReads extends_readAll).toCovers

theorem covers_ofEscaping :
    Covers outer (ofEscaping outer switch body) (switch.names ++ Stmt.readsOfAll body)
      (Stmt.bindsOfAll body) :=
  (extends_readAll.trans (extends_visitAll _ body)).toCovers

end Scope

end Template

end Scaffold
