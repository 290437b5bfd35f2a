import Scaffold.Proofs.Template.Base
import Scaffold.Template.Registry

/-!
# References to other templates

A statement refers to the template that it includes, imports or is based on. References lead to
templates with references of their own, so the ones that a template can reach are those in it and
those that the templates it may lead to can reach. Whether one of them leads to a template for sure
can be told from its expression and the names that there are.

## Main definitions

* `Template.Stmt.references` — the references in a statement
* `Template.Reference.isServed` — whether a reference leads to a template for sure
* `Template.CanReach` — a reference that can be reached from some
* `Template.AreServed` — every reference that can be reached leads to a template

## Main results

* `Template.AreServed.body` — what is served goes on being served where it leads
* `Template.Stmt.references_of_mem_blocksOfAll` — blocks refer to nothing that their template does
  not refer to
-/

namespace Scaffold

namespace Template

/-! ### What is referred to -/

/-- How a statement refers to another template. -/
inductive Reference
  /-- To the one that an expression names. -/
  | direct (template : Expr)
  /-- To the one that an expression names, or to the first one there is of several. It may be
  ignored that there is none. -/
  | choosing (template : Expr) (ignoreMissing : Bool)

mutual

/-- The references in a statement, however deep, those in blocks and routines included. -/
def Stmt.references : Stmt → List Reference
  | .loop _ _ _ _ body orElse => referencesOfAll body ++ referencesOfAll orElse
  | .choice _ body others orElse =>
    referencesOfAll body ++ referencesOfBranches others ++ referencesOfAll orElse
  | .capture _ _ body | .routine _ _ body | .callWith _ _ _ body | .filtered _ body
  | .binding _ _ body | .escaping _ body | .block _ _ _ body => referencesOfAll body
  | .inherit template | .moduleAs template _ _ | .namesFrom template _ _ => [.direct template]
  | .inclusion template ignoreMissing _ => [.choosing template ignoreMissing]
  | .text _ | .print _ | .assign _ _ => []

/-- The references in statements. -/
def Stmt.referencesOfAll : List Stmt → List Reference
  | [] => []
  | s :: ss => s.references ++ referencesOfAll ss

/-- The references in branches. -/
def Stmt.referencesOfBranches : List (Expr × List Stmt) → List Reference
  | [] => []
  | (_, body) :: rest => referencesOfAll body ++ referencesOfBranches rest

end

section Names

variable (has : Text → Bool)

/-- Whether an expression stands for a name that passes a test, whatever it is evaluated to. -/
def Expr.isNameIn : Expr → Bool
  | .string s => has s
  | .choice _ yes (some no) => yes.isNameIn && no.isNameIn
  | _ => false

/-- Whether an expression stands for a name that passes a test, or for several names of which one
does, whatever it is evaluated to. -/
def Expr.offersNameIn : Expr → Bool
  | .string s => has s
  | .list es | .tuple es => es.any (Expr.isNameIn has)
  | .choice _ yes (some no) => yes.offersNameIn && no.offersNameIn
  | _ => false

/-- Whether a reference always leads to a template, where those that pass a test are there. -/
def Reference.isServed : Reference → Bool
  | .direct template => template.isNameIn has
  | .choosing template ignoreMissing => ignoreMissing || template.offersNameIn has

end Names

/-- Whether an expression may stand for a name, or for several names among which it is. -/
def Expr.mayOffer (name : Text) : Expr → Bool
  | .string s => s = name
  | .list es | .tuple es => es.any (Expr.mayName name)
  | .choice _ yes none => yes.mayOffer name
  | .choice _ yes (some no) => yes.mayOffer name || no.mayOffer name
  | _ => true

/-- Whether a reference may lead to the template with a name. -/
def Reference.mayLeadTo (name : Text) : Reference → Bool
  | .direct template | .choosing template _ => template.mayOffer name

/-- A reference that can be reached from some: one of them, or one in a template that one of them
may lead to, directly or through others. -/
inductive CanReach (find : Text → Except Fault Template) : List Reference → Reference → Prop
  | here {refs ref} (h : ref ∈ refs) : CanReach find refs ref
  | through {refs ref ref' name t} (h : ref ∈ refs) (hname : ref.mayLeadTo name = true)
      (ht : find name = .ok t) (h' : CanReach find (Stmt.referencesOfAll t.body) ref') :
      CanReach find refs ref'

/-! ### References that are served -/

/-- All references that can be reached lead to a template. -/
def AreServed (find : Text → Except Fault Template) (has : Text → Bool) (refs : List Reference) :
    Prop :=
  ∀ ref, CanReach find refs ref → ref.isServed has = true

/-- Statements whose references are served. -/
abbrev Stmt.AreServed (find : Text → Except Fault Template) (has : Text → Bool)
    (body : List Stmt) : Prop :=
  Template.AreServed find has (Stmt.referencesOfAll body)

variable {find : Text → Except Fault Template} {has : Text → Bool} {refs refs' : List Reference}
  {ref : Reference}

theorem CanReach.of_subset (h : CanReach find refs ref) (hsub : refs ⊆ refs') :
    CanReach find refs' ref := by
  cases h with
  | here h => exact .here (hsub h)
  | through h hname ht h' => exact .through (hsub h) hname ht h'

theorem canReach_append_iff :
    CanReach find (refs ++ refs') ref ↔ CanReach find refs ref ∨ CanReach find refs' ref := by
  constructor
  · intro h
    cases h with
    | here h => exact (List.mem_append.mp h).imp .here .here
    | through h hname ht h' =>
      exact (List.mem_append.mp h).imp (.through · hname ht h') (.through · hname ht h')
  · rintro (h | h)
    · exact h.of_subset (List.subset_append_left _ _)
    · exact h.of_subset (List.subset_append_right _ _)

theorem areServed_append_iff :
    AreServed find has (refs ++ refs') ↔ AreServed find has refs ∧ AreServed find has refs' := by
  simp only [AreServed, canReach_append_iff, or_imp, forall_and]

namespace AreServed

theorem of_subset (h : AreServed find has refs) (hsub : refs' ⊆ refs) :
    AreServed find has refs' :=
  fun ref href => h ref (href.of_subset hsub)

theorem isServed (h : AreServed find has refs) (href : ref ∈ refs) : ref.isServed has = true :=
  h ref (.here href)

/-- What is served goes on being served in the templates that it leads to. -/
theorem body (h : AreServed find has refs) (href : ref ∈ refs) {name : Text} {t : Template}
    (hname : ref.mayLeadTo name = true) (ht : find name = .ok t) :
    AreServed find has (Stmt.referencesOfAll t.body) :=
  fun ref' href' => h ref' (.through href hname ht href')

end AreServed

/-! ### References in blocks -/

mutual

theorem Stmt.references_of_mem_blocks {s : Stmt} {b : Block} (hb : b ∈ s.blocks)
    {ref : Reference} (href : ref ∈ Stmt.referencesOfAll b.body) : ref ∈ s.references := by
  cases s with
  | loop target source test isRecursive body orElse =>
    rw [Stmt.blocks, List.mem_append] at hb
    rw [Stmt.references, List.mem_append]
    exact hb.imp (references_of_mem_blocksOfAll · href) (references_of_mem_blocksOfAll · href)
  | choice test body others orElse =>
    rw [Stmt.blocks, List.mem_append, List.mem_append] at hb
    rw [Stmt.references, List.mem_append, List.mem_append]
    exact hb.imp (Or.imp (references_of_mem_blocksOfAll · href)
      (references_of_mem_blocksOfBranches · href)) (references_of_mem_blocksOfAll · href)
  | capture | routine | callWith | filtered | binding | escaping =>
    rw [Stmt.blocks] at hb
    rw [Stmt.references]
    exact references_of_mem_blocksOfAll hb href
  | block name isScoped isRequired body =>
    rw [Stmt.blocks, List.mem_cons] at hb
    rw [Stmt.references]
    obtain rfl | hb := hb
    · exact href
    · exact references_of_mem_blocksOfAll hb href
  | _ => cases hb

theorem Stmt.references_of_mem_blocksOfAll {ss : List Stmt} {b : Block}
    (hb : b ∈ Stmt.blocksOfAll ss) {ref : Reference} (href : ref ∈ Stmt.referencesOfAll b.body) :
    ref ∈ Stmt.referencesOfAll ss := by
  cases ss with
  | nil => cases hb
  | cons s ss =>
    rw [Stmt.blocksOfAll, List.mem_append] at hb
    rw [Stmt.referencesOfAll, List.mem_append]
    exact hb.imp (references_of_mem_blocks · href) (references_of_mem_blocksOfAll · href)

theorem Stmt.references_of_mem_blocksOfBranches {branches : List (Expr × List Stmt)} {b : Block}
    (hb : b ∈ Stmt.blocksOfBranches branches) {ref : Reference}
    (href : ref ∈ Stmt.referencesOfAll b.body) : ref ∈ Stmt.referencesOfBranches branches := by
  cases branches with
  | nil => cases hb
  | cons branch rest =>
    obtain ⟨test, body⟩ := branch
    rw [Stmt.blocksOfBranches, List.mem_append] at hb
    rw [Stmt.referencesOfBranches, List.mem_append]
    exact hb.imp (references_of_mem_blocksOfAll · href)
      (references_of_mem_blocksOfBranches · href)

end

end Template

end Scaffold
