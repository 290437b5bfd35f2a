import Scaffold.Proofs.Template.Load
import Scaffold.Proofs.Template.Perform
import Scaffold.Template.Registry

/-!
# How rendering fails

A source that cannot be parsed is not registered, and that is reported. What rendering ends with is
reported as well if it is a fault of the template as such. Other faults are those of values that do
not bear what is done with them, and nobody reports them; but they do not come from nowhere: they
are among those that the statements and the variables risk, which can be told before anything is
rendered.

## Main results

* `Template.Registry.rendering_fails` — rendering fails with a report, or with a fault that is
  risked
-/

namespace Scaffold

namespace Template

/-- Every fault is one of the template as such, or one of values. -/
theorem Fault.isOfTemplate_or_mem (f : Fault) : f.isOfTemplate = true ∨ f ∈ Fault.ofValues := by
  cases f <;> decide

/-- The only fault of a template that is told before it is carried out, other than that it cannot be
used, is that of a keyword given twice. -/
theorem ofBody_fails (name : Option Text) (body : List Stmt) :
    Gives (fun t => t.body = body) (fun f => f ∈ fault? body) (ofBody name body) := by
  rw [ofBody]
  split
  · next f hf => exact hf
  · rfl

theorem mem_risksOfRendering {f : Fault} {body : List Stmt} {vars : List (Value × Value)} :
    f ∈ risksOfRendering body vars ↔
      f = .tooDeep ∨ f ∈ fault? body ∨ f ∈ Stmt.risksOfAll body ∨ f ∈ risksOfVariables vars := by
  simp [risksOfRendering]

/-- The faults of templates as such, and further ones that are risked, if these are not all. -/
def Reckoning.ofRisks (risks : List Fault) (hdeep : .tooDeep ∈ risks)
    (hproper : ¬∀ f ∈ Fault.ofValues, f.isOfTemplate = true ∨ f ∈ risks) : Reckoning where
  has f := f.isOfTemplate = true ∨ f ∈ risks
  ofTemplate := .inl
  tooDeep := .inr hdeep
  isProper := hproper

namespace Registry

variable {E : Reckoning} {r : Registry} {body : List Stmt} {vars : List (Value × Value)}

/-- Rendering a template comes to nothing but what it risks. -/
theorem render_fails {t : Template} (name : Option Text) (hbody : E.hasAll (Stmt.risksOfAll t.body))
    (hvars : E.hasAll (risksOfVariables vars)) : FailsAs E.has (r.render name t vars).1 := by
  have hwork : Abides E (fun _ => none) (fun _ _ => True) (do
      let given ← loadVariables vars
      let context ← allocate (.context (.ofTemplate t (given ++ commonNames)))
      (Engine.ofDepth r.strict r.find depth).run name t context) := by
    refine (Abides.loadVariables hvars).bind fun σ given _ hgiven => ?_
    have hcommon : AreBound E σ commonNames := List.forall_mem_map.mpr fun _ _ => .builtin _
    have hall : AreBound E σ (Context.ofTemplate t (given ++ commonNames)).all :=
      List.forall_mem_append.mpr ⟨AreBound.nil, List.forall_mem_append.mpr ⟨hgiven, hcommon⟩⟩
    refine (Abides.allocate (.context hall)).bind fun τ context _ hcontext => ?_
    exact Abides.runTemplate (Engine.isSound_ofDepth r.strict r.find _) name t hcontext hbody
  have hdone : IsOutcome E (fun _ => none) (fun _ _ => True) (EStateM.run _ r.start) :=
    hwork r.start fun _ _ h => nomatch h
  rw [render]
  split
  · trivial
  · next hrun =>
    rw [hrun] at hdone
    exact hdone

/-- Making a template ready and rendering it comes to a fault of the template as such, or to one
that is risked. -/
theorem renderIfUsable_fails (r : Registry) (name : Option Text) (body : List Stmt)
    (vars : List (Value × Value)) :
    FailsAs (fun f => f.isOfTemplate = true ∨ f ∈ risksOfRendering body vars)
      (r.renderIfUsable name (ofBody name body) vars).1 := by
  by_cases hproper : ∀ f ∈ Fault.ofValues, f.isOfTemplate = true ∨ f ∈ risksOfRendering body vars
  · -- where every fault is risked there is nothing to show
    cases (r.renderIfUsable name (ofBody name body) vars).1 with
    | ok s => trivial
    | error f => exact f.isOfTemplate_or_mem.elim .inl (hproper f)
  · have hbody := ofBody_fails name body
    cases hready : ofBody name body with
    | error f =>
      rw [hready] at hbody
      exact .inr (mem_risksOfRendering.mpr (.inr (.inl hbody)))
    | ok t =>
      rw [hready] at hbody
      obtain rfl : t.body = body := hbody
      let E : Reckoning := .ofRisks (risksOfRendering t.body vars) (.head _) hproper
      have hstmts : E.hasAll (Stmt.risksOfAll t.body) := fun f hf =>
        .inr (mem_risksOfRendering.mpr (.inr (.inr (.inl hf))))
      have hvars : E.hasAll (risksOfVariables vars) := fun f hf =>
        .inr (mem_risksOfRendering.mpr (.inr (.inr (.inr hf))))
      exact render_fails name hstmts hvars

/-- A printed expression that comes to a fault wherever it is evaluated. -/
theorem render_print_of_eval {e : Expr} {f : Fault}
    (h : ∀ (eng : Engine) (p : Place), eval eng p .null e = throw f) (strict : Bool) :
    ((empty strict).render none ⟨[.print e], none, []⟩ []).1 = .error f := by
  let context : Context := .ofTemplate ⟨[.print e], none, []⟩ commonNames
  have hrun (eng : Engine) : ∃ state, runTemplate eng none ⟨[.print e], none, []⟩ 0
      ⟨#[.context context], [], [], []⟩ = .error f state := by
    simp only [runTemplate, performTops, performTop, perform, h]
    exact ⟨_, rfl⟩
  obtain ⟨state, hstate⟩ := hrun (Engine.ofDepth strict (empty strict).find 239)
  have hwork : (do
      let given ← loadVariables []
      let context ← allocate (.context (.ofTemplate ⟨[.print e], none, []⟩ (given ++ commonNames)))
      (Engine.ofDepth (empty strict).strict (empty strict).find depth).run none
        ⟨[.print e], none, []⟩ context : Work Unit).run (empty strict).start = .error f state :=
    hstate
  rw [render, hwork]

/-- A number divided by another one, printed. -/
def quotient? : List Stmt → Option (Nat × Nat)
  | [.print (.binary .div (.integer m) (.integer n))] => some (m, n)
  | _ => none

end Registry

end Template

end Scaffold
