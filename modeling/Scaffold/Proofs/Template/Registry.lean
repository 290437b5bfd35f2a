import Scaffold.Proofs.Template.Base
import Scaffold.Template.Registry

/-!
# Templates under their names

A template that is rendered by its name is rendered as its source would be. There are two
differences. What is put in for the name `self` tells the name of the template, in the template as
well as in those that it is based on, so neither the source nor any of those may refer to it. And a
failure of the template tells the name, so failures are compared by what they are: either one of
the template as such, or a certain fault of a value.

What is kept under a name is what was added under it last. A source that cannot be parsed is not
added.

## Main results

* `Template.ofBody_some` — a template that does not refer to itself does not know its name
* `Template.refersToSelf_of_not_mem` — a template in which the name is not read
* `Template.Registry.lookup_add` — what is kept under a name
* `Template.Registry.renderNamed_alike` — rendering by name and rendering the source
-/

namespace Scaffold

namespace Template

/-! ### Names that are read -/

theorem readFirst_eq_nil {names : List Text} {mentions : List Mention}
    (h : ∀ name ∈ names, .reads name ∉ mentions) : readFirst names mentions = [] := by
  induction mentions generalizing names with
  | nil => rfl
  | cons m rest ih =>
    have hrest : ∀ name ∈ names, Mention.reads name ∉ rest :=
      fun name hname hin => h name hname (List.mem_cons_of_mem _ hin)
    cases m with
    | reads name =>
      have hname : name ∉ names := fun hin => h name hin List.mem_cons_self
      rw [readFirst, if_neg (by simpa using hname)]
      exact ih hrest
    | binds name =>
      rw [readFirst]
      exact ih fun n hn => hrest n (List.mem_filter.mp hn).1

/-- A name that is read nowhere is not read first. -/
theorem readsFirst_eq_false {name : Text} {body : List Stmt}
    (h : .reads name ∉ Stmt.mentionsOfAll body) : readsFirst name body = false := by
  rw [readsFirst, readFirst_eq_nil (by simpa using h)]
  rfl

/-- Whether a source refers to the template it is, in one of its blocks or outside of them. -/
def refersToSelf (source : Text) : Bool :=
  (parse? source).any fun body =>
    readsFirst (Text.of "self") body ||
      (Stmt.blocksOfAll body).any fun b => readsFirst (Text.of "self") b.body

theorem refersToSelf_eq_false {source : Text} {body : List Stmt}
    (hparse : parse? source = some body) (hself : refersToSelf source = false) :
    readsFirst (Text.of "self") body = false ∧
      ∀ b ∈ Stmt.blocksOfAll body, readsFirst (Text.of "self") b.body = false := by
  simpa [refersToSelf, hparse] using hself

/-- A source in which the name is not read does not refer to the template it is. -/
theorem refersToSelf_of_not_mem {source : Text} {body : List Stmt}
    (hparse : parse? source = some body)
    (hbody : .reads (Text.of "self") ∉ Stmt.mentionsOfAll body)
    (hblocks : ∀ b ∈ Stmt.blocksOfAll body,
      .reads (Text.of "self") ∉ Stmt.mentionsOfAll b.body) :
    refersToSelf source = false := by
  have hfirst : ∀ b ∈ Stmt.blocksOfAll body, readsFirst (Text.of "self") b.body = false :=
    fun b hb => readsFirst_eq_false (hblocks b hb)
  simpa [refersToSelf, hparse, readsFirst_eq_false hbody] using hfirst

/-- **A template that does not refer to itself does not know its name.** -/
theorem ofBody_some {source : Text} {body : List Stmt} (hparse : parse? source = some body)
    (hself : refersToSelf source = false) (name : Text) :
    ofBody (some name) body = ofBody none body := by
  obtain ⟨hbody, hblocks⟩ := refersToSelf_eq_false hparse hself
  have hcodes : ∀ b ∈ Stmt.blocksOfAll body,
      BlockCode.ofBlock (some name) b = BlockCode.ofBlock none b := by
    intro b hb
    rw [BlockCode.ofBlock, BlockCode.ofBlock, hblocks b hb]
    rfl
  have hmap : (Stmt.blocksOfAll body).map (fun b => (b.name, BlockCode.ofBlock (some name) b)) =
      (Stmt.blocksOfAll body).map fun b => (b.name, BlockCode.ofBlock none b) :=
    List.map_congr_left fun b hb => by rw [hcodes b hb]
  rw [ofBody, ofBody, hbody, hmap]
  rfl

theorem body_of_ofBody {name : Option Text} {body : List Stmt} {t : Template}
    (h : ofBody name body = .ok t) : t.body = body := by
  rw [ofBody] at h
  cases hfault : fault? body with
  | some f => simp [hfault] at h
  | none =>
    rw [hfault] at h
    cases h
    rfl

/-- A source that does not refer to the template it is makes one that does not ask for itself. -/
theorem isSelfless_of_refersToSelf {source : Text} {body : List Stmt} {name : Option Text}
    {t : Template} (hparse : parse? source = some body) (hself : refersToSelf source = false)
    (h : ofBody name body = .ok t) : t.IsSelfless := by
  obtain ⟨hbody, hblocks⟩ := refersToSelf_eq_false hparse hself
  rw [ofBody] at h
  cases hfault : fault? body with
  | some f => simp [hfault] at h
  | none =>
    rw [hfault] at h
    cases h
    refine ⟨by simp [hbody], fun x hx => ?_⟩
    obtain ⟨b, hb, rfl⟩ := List.mem_map.mp hx
    simp [BlockCode.ofBlock, hblocks b hb]

/-- The fault of a value, if that is what a failure is and not one of the template as such. -/
def Failure.fault? : Failure → Option Fault
  | .value f => some f
  | _ => none

/-! ### What is kept under a name -/

namespace Registry

variable {r : Registry} {name source : Text} {body : List Stmt}

theorem lookup_cons_eq_ite {α : Type} (entry : Text × α) (rest : List (Text × α)) (other : Text) :
    (entry :: rest).lookup other = if other = entry.1 then some entry.2 else rest.lookup other := by
  obtain ⟨n, b⟩ := entry
  by_cases h : other = n
  · simp [h]
  · rw [List.lookup_cons, beq_eq_false_iff_ne.mpr h, if_neg h]

theorem lookup_insert (name : Text) (new : Source) (templates : List (Text × Source))
    (other : Text) :
    (insert name new templates).lookup other =
      if other = name then some new else templates.lookup other := by
  induction templates with
  | nil => exact lookup_cons_eq_ite _ _ _
  | cons entry rest ih =>
    obtain ⟨n, old⟩ := entry
    rw [insert]
    by_cases hn : n = name
    · subst hn
      rw [if_pos rfl, lookup_cons_eq_ite, lookup_cons_eq_ite]
      by_cases h : other = n
      · rw [if_pos h, if_pos h]
      · rw [if_neg h, if_neg h, if_neg h]
    · rw [if_neg hn]
      by_cases hle : Text.le name n
      · rw [if_pos hle, lookup_cons_eq_ite]
      · -- the new one comes later, and hides none of those in front of it
        rw [if_neg hle, lookup_cons_eq_ite, lookup_cons_eq_ite, ih]
        by_cases h : other = n
        · rw [if_pos h, if_pos h, if_neg (h ▸ hn)]
        · rw [if_neg h, if_neg h]

/-- **What is added is kept under its name, and under no other one.** -/
theorem lookup_add {r' : Registry} (h : r.add name source = .ok r') :
    ∃ body, parse? source = some body ∧
      ∀ other, r'.templates.lookup other =
        if other = name then some ⟨source, body⟩ else r.templates.lookup other := by
  rw [add] at h
  cases hparse : parse? source with
  | none => simp [hparse] at h
  | some body =>
    rw [hparse] at h
    obtain rfl := Except.ok.inj h
    exact ⟨body, rfl, lookup_insert name ⟨source, body⟩ r.templates⟩

/-- Rendering makes modules, and leaves the templates as they are. -/
theorem templates_render (r : Registry) (name : Option Text) (t : Template)
    (vars : List (Value × Value)) : (r.render name t vars).2.templates = r.templates := by
  rw [render]
  split <;> rfl

theorem templates_renderIfUsable (r : Registry) (name : Option Text)
    (usable : Except Fault Template) (vars : List (Value × Value)) :
    (r.renderIfUsable name usable vars).2.templates = r.templates := by
  cases usable with
  | error f => rfl
  | ok t => exact templates_render r name t vars

theorem templates_useNamed (r : Registry) (name : Text) (vars : List (Value × Value)) :
    (r.useNamed name vars).2.templates = r.templates :=
  templates_renderIfUsable r (some name) (r.find name) vars

/-! ### Rendering -/

/-- No template that a source can be based on asks for its template. -/
def HasSelflessBases (r : Registry) (source : Text) : Prop :=
  ∀ body, parse? source = some body → ∀ t, CanExtend r.find body t → t.IsSelfless

/-- It is enough that the sources that are registered under the names of its bases are such sources
again, and do not refer to themselves. -/
theorem hasSelflessBases_of_named
    (h : ∀ body, parse? source = some body → ∀ e ∈ Stmt.basesOfAll body, ∀ name above,
      e.mayName name = true → r.templates.lookup name = some above →
        parse? above.text = some above.body ∧ refersToSelf above.text = false ∧
          r.HasSelflessBases above.text) :
    r.HasSelflessBases source := by
  intro body hparse t ht
  have hnamed : ∀ t', IsNamedIn r.find (Stmt.basesOfAll body) t' →
      t'.IsSelfless ∧ ∀ t'', CanExtend r.find t'.body t'' → t''.IsSelfless := by
    rintro t' ⟨e, he, name, hname, hfind⟩
    rw [find] at hfind
    cases hlookup : r.templates.lookup name with
    | none => simp [hlookup] at hfind
    | some above =>
      rw [hlookup] at hfind
      obtain ⟨hparse', hself, hbases⟩ := h body hparse e he name above hname hlookup
      rw [body_of_ofBody hfind]
      exact ⟨isSelfless_of_refersToSelf hparse' hself hfind, hbases above.body hparse'⟩
  cases ht with
  | direct hdirect => exact (hnamed t hdirect).1
  | through hdirect hrest => exact (hnamed _ hdirect).2 t hrest

theorem hasSelflessBases_of_bases_eq_nil
    (h : (parse? source).all fun body => (Stmt.basesOfAll body).isEmpty) :
    r.HasSelflessBases source := by
  refine hasSelflessBases_of_named fun body hparse e he => ?_
  have hnone : Stmt.basesOfAll body = [] := by simpa [hparse] using h
  simp [hnone] at he

/-- A template is rendered the same under two names if those that it can be based on do not ask for
it. -/
theorem render_congr {t : Template} {a b : Option Text} {vars : List (Value × Value)}
    (h : ∀ t', CanExtend r.find t.body t' → t'.IsSelfless) :
    (r.render a t vars).1 = (r.render b t vars).1 := by
  have hrun : ∀ context, (Engine.ofDepth r.strict r.find depth).run a t context =
      (Engine.ofDepth r.strict r.find depth).run b t context := Engine.run_congr h depth
  simp only [render, hrun]
  split <;> rfl

/-- A fault is the same whether it is told with the name of the template or without it. -/
theorem fault?_alike (name : Text) (x : Except Fault Text) :
    (x.mapError fun f =>
        if f = .missingTemplate then Failure.unregistered name
        else if f.isOfTemplate then .unrenderable (some name)
        else .value f).mapError Failure.fault? =
      (x.mapError fun f => if f.isOfTemplate then Failure.unrenderable none else .value f).mapError
        Failure.fault? := by
  cases x with
  | ok s => rfl
  | error f =>
    refine congrArg Except.error ?_
    by_cases hmissing : f = .missingTemplate
    · subst hmissing
      rfl
    · dsimp only
      rw [if_neg hmissing]
      cases f.isOfTemplate <;> rfl

/-- **Rendering by name is rendering the source.** Both give the same text, or both fail, and then
both because of the template or both because of the same fault of a value. -/
theorem renderNamed_alike (hname : r.templates.lookup name = some ⟨source, body⟩)
    (hparse : parse? source = some body) (hself : refersToSelf source = false)
    (hbases : r.HasSelflessBases source) (vars : List (Value × Value)) :
    (r.renderNamed name vars).mapError Failure.fault? =
      (r.renderSource source vars).mapError Failure.fault? := by
  have hfind : r.find name = ofBody none body := by
    rw [find, hname]
    exact ofBody_some hparse hself name
  have hrender : (r.renderIfUsable (some name) (ofBody none body) vars).1 =
      (r.renderIfUsable none (ofBody none body) vars).1 := by
    cases ht : ofBody none body with
    | error f => rfl
    | ok t =>
      have hbody : t.body = body := body_of_ofBody ht
      exact render_congr (hbody ▸ hbases body hparse)
  rw [renderNamed, renderSource, useNamed, useSource, hfind, hparse]
  dsimp only
  rw [hrender]
  exact fault?_alike name _

end Registry

end Template

end Scaffold
