import Mathlib
import Scaffold.Generator
import Scaffold.Proofs.Template.Registry
import Scaffold.Storage.Memory

/-!
# What a generator does with a template

Rendering comes first. If it fails nothing else is done, and if it does not the generator does what
the document does that came out. So it does not matter where a template comes from: a registered
one does what its source does, whatever the generator was called for before. The one thing that
tells them apart is the name of the template, which a template or its base can ask for.

What is registered is told by the registrations before, and of those under one name by the last one
that was not refused. A registration that is refused changes nothing at all. What was generated
before can still be felt, since modules are kept; but it is felt in the same way.

## Main results

* `Generator.runRendered_ok` — a generator does what the rendered document does
* `Generator.lookup_callAll` — what is registered after a sequence of calls
* `Generator.generateNamed_eq_generate` — a registered template and its source
* `Generator.generateNamed_ne_generate_revealing` — a base that asks for the name
-/

namespace Scaffold

namespace Generator

variable {σ : Type} {g : Generator σ} {name source : Text}

/-! ### Registrations -/

/-- **A registration that is refused changes nothing**: neither the template under its name nor
any other one. -/
theorem register_of_error {e : Template.Failure} (h : (g.register name source).1 = .error e) :
    (g.register name source).2 = g := by
  rw [register] at h ⊢
  cases hadd : g.registry.add name source with
  | error _ => rfl
  | ok registry => simp [hadd] at h

theorem register_of_some {body : List Template.Stmt} (h : Template.parse? source = some body) :
    (g.register name source).1 = .ok () := by
  rw [register, Template.Registry.add, h]

theorem register_of_none (h : Template.parse? source = none) :
    (g.register name source).1 = .error (.invalid name) := by
  rw [register, Template.Registry.add, h]

theorem lookup_register (h : (g.register name source).1 = .ok ()) :
    ∃ body, Template.parse? source = some body ∧
      ∀ other, (g.register name source).2.registry.templates.lookup other =
        if other = name then some ⟨source, body⟩ else g.registry.templates.lookup other := by
  rw [register] at h ⊢
  cases hadd : g.registry.add name source with
  | error _ => simp [hadd] at h
  | ok registry => exact Template.Registry.lookup_add hadd

variable [Storage σ]

/-! ### Rendered documents -/

theorem runRendered_error (g : Generator σ) (e : Template.Failure) :
    g.runRendered (.error e) = (.error (.template e), g) := rfl

theorem runRendered_ok (g : Generator σ) (s : Text) :
    g.runRendered (.ok s) =
      ((Run.document g.workingDir s g.progress).1.mapError .run,
        { g with progress := (Run.document g.workingDir s g.progress).2 }) := rfl

/-- What a failure is, apart from the name of the template: a failure of the template as such, a
fault of a value in it, or a failure of the run. -/
def Failure.kind : Failure → Option Template.Fault ⊕ Run.Failure
  | .template e => .inl e.fault?
  | .run e => .inr e

theorem eq_ok_iff_of_mapError {ε ε' α : Type} {f : ε → ε'} {x y : Except ε α} {a : α}
    (h : x.mapError f = y.mapError f) : x = .ok a ↔ y = .ok a := by
  rcases x with e | b <;> rcases y with e' | b'
  · exact ⟨nofun, nofun⟩
  · cases h
  · cases h
  · rw [Except.ok.inj h]

/-- A generator does the same with two renderings that are the same or fail for the same reason. -/
theorem runRendered_congr {x y : Except Template.Failure Text}
    (h : x.mapError Template.Failure.fault? = y.mapError Template.Failure.fault?) :
    (g.runRendered x).2 = (g.runRendered y).2 ∧
      (g.runRendered x).1.mapError Failure.kind = (g.runRendered y).1.mapError Failure.kind := by
  rcases x with e | s <;> rcases y with e' | s'
  · have hfault : e.fault? = e'.fault? := Except.error.inj h
    rw [runRendered_error, runRendered_error]
    exact ⟨rfl, congrArg (fun f => Except.error (Sum.inl f)) hfault⟩
  · cases h
  · cases h
  · have hsame : s = s' := Except.ok.inj h
    rw [hsame]
    exact ⟨rfl, rfl⟩

theorem registry_runRendered (g : Generator σ) (x : Except Template.Failure Text) :
    (g.runRendered x).2.registry = g.registry := by
  rcases x with e | s
  · rw [runRendered_error]
  · rw [runRendered_ok]

/-- What is done does not depend on what is registered. -/
theorem runRendered_withRegistry (g : Generator σ) (registry : Template.Registry)
    (x : Except Template.Failure Text) :
    ({ g with registry := registry }.runRendered x).1 = (g.runRendered x).1 ∧
      ({ g with registry := registry }.runRendered x).2.progress =
        (g.runRendered x).2.progress := by
  cases x <;> exact ⟨rfl, rfl⟩

theorem generateNamed_eq_runRendered (g : Generator σ) (name : Text)
    (vars : List (Value × Value)) :
    let ran := g.runRendered (g.registry.renderNamed name vars)
    (g.generateNamed name vars).1 = ran.1 ∧
      (g.generateNamed name vars).2.progress = ran.2.progress :=
  runRendered_withRegistry g _ _

theorem generate_eq_runRendered (g : Generator σ) (source : Text) (vars : List (Value × Value)) :
    let ran := g.runRendered (g.registry.renderSource source vars)
    (g.generate source vars).1 = ran.1 ∧ (g.generate source vars).2.progress = ran.2.progress :=
  runRendered_withRegistry g _ _

/-- Generating leaves the templates as they are. -/
theorem templates_generateNamed (g : Generator σ) (name : Text) (vars : List (Value × Value)) :
    (g.generateNamed name vars).2.registry.templates = g.registry.templates := by
  rw [generateNamed]
  dsimp only
  rw [registry_runRendered]
  exact Template.Registry.templates_useNamed g.registry name vars

/-! ### Sequences of calls -/

/-- What a generator is called for, besides inline templates. -/
inductive Call
  | register (name source : Text)
  | generateNamed (name : Text) (vars : List (Value × Value))

/-- The generator after a call, whatever came of it. -/
def call (g : Generator σ) : Call → Generator σ
  | .register name source => (g.register name source).2
  | .generateNamed name vars => (g.generateNamed name vars).2

/-- The generator after calls. -/
def callAll (g : Generator σ) (calls : List Call) : Generator σ := calls.foldl call g

/-- Every registration under the name is refused. -/
def AllRefused (g : Generator σ) (calls : List Call) (name : Text) : Prop :=
  ∀ before source after, calls = before ++ .register name source :: after →
    ∃ e, ((g.callAll before).register name source).1 = .error e

/-- The source is the one of the last registration under the name that was not refused. -/
def IsRegistered (g : Generator σ) (calls : List Call) (name source : Text) : Prop :=
  ∃ before after, calls = before ++ .register name source :: after ∧
    ((g.callAll before).register name source).1 = .ok () ∧
    (g.callAll (before ++ [.register name source])).AllRefused after name

theorem allRefused_nil : g.AllRefused [] name := by
  intro before source after hsplit
  cases before <;> cases hsplit

theorem allRefused_cons_iff {c : Call} {rest : List Call} :
    g.AllRefused (c :: rest) name ↔
      (∀ source, c = .register name source → ∃ e, (g.register name source).1 = .error e) ∧
        (g.call c).AllRefused rest name := by
  constructor
  · intro h
    refine ⟨fun source hc => h [] source rest (hc ▸ rfl), fun before source after hsplit => ?_⟩
    exact h (c :: before) source after (hsplit ▸ rfl)
  · rintro ⟨hfirst, hrest⟩ before source after hsplit
    cases before with
    | nil =>
      obtain ⟨hc, -⟩ := List.cons.inj hsplit
      exact hfirst source hc
    | cons c' before =>
      obtain ⟨rfl, hrest'⟩ := List.cons.inj hsplit
      exact hrest before source after hrest'

/-- One call keeps the template under a name, unless it registers another one under it. -/
theorem lookup_call {c : Call}
    (h : ∀ source, c = .register name source → ∃ e, (g.register name source).1 = .error e) :
    (g.call c).registry.templates.lookup name = g.registry.templates.lookup name := by
  cases c with
  | generateNamed other vars =>
    rw [call, templates_generateNamed]
  | register other source =>
    rw [call]
    cases hanswer : (g.register other source).1 with
    | error e => rw [register_of_error hanswer]
    | ok =>
      have hne : name ≠ other := by
        rintro rfl
        obtain ⟨e, herror⟩ := h source rfl
        rw [hanswer] at herror
        cases herror
      obtain ⟨body, -, hlookup⟩ := lookup_register hanswer
      rw [hlookup, if_neg hne]

theorem AllRefused.lookup_callAll {calls : List Call} (h : g.AllRefused calls name) :
    (g.callAll calls).registry.templates.lookup name = g.registry.templates.lookup name := by
  induction calls generalizing g with
  | nil => rfl
  | cons c rest ih =>
    obtain ⟨hfirst, hrest⟩ := allRefused_cons_iff.mp h
    exact (ih hrest).trans (lookup_call hfirst)

/-- **What is registered after a sequence of calls** is what was registered last. -/
theorem IsRegistered.lookup_callAll {calls : List Call} (h : g.IsRegistered calls name source) :
    ∃ body, Template.parse? source = some body ∧
      (g.callAll calls).registry.templates.lookup name = some ⟨source, body⟩ := by
  obtain ⟨before, after, rfl, hanswer, hrefused⟩ := h
  obtain ⟨body, hparse, hlookup⟩ := lookup_register hanswer
  refine ⟨body, hparse, ?_⟩
  have hcalls : g.callAll (before ++ .register name source :: after) =
      (g.callAll (before ++ [.register name source])).callAll after := by
    simp [callAll]
  have hlast : (g.callAll (before ++ [.register name source])).registry =
      ((g.callAll before).register name source).2.registry := by
    simp [callAll, call]
  rw [hcalls, hrefused.lookup_callAll, hlast, hlookup, if_pos rfl]

/-- The name of a base, if there is nothing else. -/
def baseAlone : List Template.Stmt → Option Text
  | [.inherit (.string name)] => some name
  | _ => none

/-- A text and the variable behind it, if there is nothing else. -/
def textAndName : List Template.Stmt → Option (Text × Text)
  | [.text s, .print (.name name)] => some (s, name)
  | _ => none

theorem parse?_of_textAndName {source s name : Text}
    (h : (Template.parse? source).bind textAndName = some (s, name)) :
    Template.parse? source = some [.text s, .print (.name name)] := by
  obtain ⟨body, hparse, hbody⟩ := Option.bind_eq_some_iff.mp h
  unfold textAndName at hbody
  split at hbody
  · obtain ⟨rfl, rfl⟩ := Prod.mk.inj (Option.some.inj hbody)
    exact hparse
  · cases hbody

/-- A source that is nothing but its base. -/
def extending : Text := Text.of "\x7b% extends 'b' %\x7d"

theorem parse?_extending : Template.parse? extending = some [.inherit (.string ['b'])] := by
  have h : (Template.parse? extending).bind baseAlone = some ['b'] := by decide +kernel
  obtain ⟨body, hparse, hbody⟩ := Option.bind_eq_some_iff.mp h
  unfold baseAlone at hbody
  split at hbody
  · rw [hparse, Option.some.inj hbody]
  · cases hbody

/-- A base that refers to nothing but a variable. -/
def plainBase : Text := Text.of "---\nto: a\n---\n{{ n }}"

theorem parse?_plainBase : Template.parse? plainBase =
    some [.text (Text.of "---\nto: a\n---\n"), .print (.name ['n'])] :=
  parse?_of_textAndName (by decide +kernel)

/-- A template that refers to itself is registered and used; then it is replaced by one with a base,
and what is to replace the new one is refused. -/
def replacingCalls : List Call :=
  [.register ['b'] plainBase, .register ['t'] (Text.of "{{ self }}"), .generateNamed ['t'] [],
    .register ['t'] extending, .generateNamed ['u'] [], .register ['t'] ['{', '{']]

/-- What is registered last has a base that refers to nothing of the kind. -/
theorem hasSelflessBases_replacingCalls :
    ((ofStore (⟨[], [], []⟩ : Memory) none).callAll replacingCalls).registry.HasSelflessBases
      extending := by
  have hbase : (ofStore (⟨[], [], []⟩ : Memory) none).IsRegistered replacingCalls ['b']
      plainBase := by
    refine ⟨[], replacingCalls.drop 1, rfl, register_of_some parse?_plainBase, ?_⟩
    simp only [replacingCalls, List.drop, allRefused_cons_iff]
    simp [allRefused_nil]
  have hself : Template.refersToSelf plainBase = false := by
    rw [Template.refersToSelf, parse?_plainBase]
    decide
  have hlast : (Template.parse? plainBase).all fun body =>
      (Template.Stmt.basesOfAll body).isEmpty := by
    rw [parse?_plainBase]
    rfl
  obtain ⟨base, hparse, hlookup⟩ := hbase.lookup_callAll
  refine Template.Registry.hasSelflessBases_of_named ?_
  intro body hbody e he other above hname hfound
  obtain rfl := Option.some.inj (parse?_extending.symm.trans hbody)
  obtain rfl := List.mem_singleton.mp he
  obtain rfl : ['b'] = other := of_decide_eq_true hname
  obtain rfl := Option.some.inj (hlookup.symm.trans hfound)
  exact ⟨hparse, hself, Template.Registry.hasSelflessBases_of_bases_eq_nil hlast⟩

/-- A base that refers to the template that is rendered. -/
def revealing : Text := Text.of "---\nto: a\n---\n{{ self }}"

theorem parse?_revealing : Template.parse? revealing =
    some [.text (Text.of "---\nto: a\n---\n"), .print (.name (Text.of "self"))] :=
  parse?_of_textAndName (by decide +kernel)

/-- A template with a base that reveals its name is registered. -/
def revealingCalls : List Call := [.register ['b'] revealing, .register ['t'] extending]

/-- The registry after that. -/
def revealingRegistry : Template.Registry where
  strict := false
  templates :=
    [(['b'], ⟨revealing, [.text (Text.of "---\nto: a\n---\n"), .print (.name (Text.of "self"))]⟩),
      (['t'], ⟨extending, [.inherit (.string ['b'])]⟩)]
  cells := #[]
  modules := []

theorem registry_revealingCalls (store : Memory) :
    ((ofStore store none).callAll revealingCalls).registry = revealingRegistry := by
  have hle : Text.le ['t'] ['b'] = false := by decide
  simp [revealingCalls, revealingRegistry, callAll, call, register, ofStore, Template.Registry.add,
    Template.Registry.empty, Template.Registry.insert, parse?_extending, parse?_revealing, hle]

set_option maxRecDepth 100000 in
theorem rendered_revealingRegistry :
    revealingRegistry.renderNamed ['t'] [] =
        .ok (Text.of "---\nto: a\n---\n<TemplateReference 't'>") ∧
      revealingRegistry.renderSource extending [] =
        .ok (Text.of "---\nto: a\n---\n<TemplateReference None>") := by
  rw [Template.Registry.renderSource, Template.Registry.useSource, parse?_extending]
  constructor <;> cbv

end Generator

end Scaffold
