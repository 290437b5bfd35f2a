import Scaffold.Proofs.Template.Base
import Scaffold.Proofs.Text.Lines
import Scaffold.Template.Registry

/-!
# Templates without tags

A source without tags is one piece of text, and rendering puts it out with its line ends unified. It
does so whatever the variables are: they become items before anything is put out, which cannot fail
and puts nothing out, and then no name is looked up.

## Main definitions

* `Template.IsPlain` — a source in which no tag begins
* `Template.Yields` — a step of rendering that comes to an end in silence

## Main results

* `Template.parse?_of_isPlain` — the statements of such a source
* `Template.loadVariables_yields` — variables become items
* `Template.Registry.renderSource_of_isPlain` — rendering such a source
-/

namespace Scaffold

namespace Template

variable {α β : Type} {s source : Text}

/-! ### The tokens -/

/-- What tags begin with. -/
def tagOpenings : List Text := [['{', '{'], ['{', '%'], ['{', '#']]

/-- A source in which no tag begins. -/
def IsPlain (source : Text) : Prop := ∀ opening ∈ tagOpenings, ¬opening <:+: source

instance : DecidablePred IsPlain := fun source =>
  inferInstanceAs (Decidable (∀ opening ∈ tagOpenings, ¬opening <:+: source))

/-- No tag begins at the front of such a source. -/
theorem IsPlain.ofChar?_eq_none {c : Char} {rest : Text} (h : IsPlain ('{' :: c :: rest)) :
    TagKind.ofChar? c = none := by
  have hne : ∀ opening ∈ tagOpenings, opening ≠ ['{', c] := by
    rintro opening hmem rfl
    exact h _ hmem (List.prefix_append ['{', c] rest).isInfix
  simp only [tagOpenings, List.forall_mem_cons, List.not_mem_nil, false_imp_iff, implies_true,
    and_true, ne_eq, List.cons.injEq, true_and, and_true] at hne
  obtain ⟨hprint, hstatement, hcomment⟩ := hne
  rw [TagKind.ofChar?, if_neg (Ne.symm hprint), if_neg (Ne.symm hstatement),
    if_neg (Ne.symm hcomment)]

theorem IsPlain.tail {c : Char} (h : IsPlain (c :: s)) : IsPlain s := fun opening hmem hstands =>
  h opening hmem (hstands.trans (List.suffix_cons c s).isInfix)

theorem cutAtTag?_of_isPlain (h : IsPlain s) : cutAtTag? s = none := by
  induction s using cutAtTag?.induct with
  | case1 => rfl
  | case2 => rfl
  | case3 c d rest kind hkind =>
    -- a tag begins here, which is against the assumption
    obtain ⟨rfl, hkind⟩ := Option.ite_none_right_eq_some.mp hkind
    rw [h.ofChar?_eq_none] at hkind
    cases hkind
  | case4 c d rest hkind ih =>
    rw [cutAtTag?, hkind, ih h.tail]
    rfl

/-- Unifying line ends brings no tag about. -/
theorem IsPlain.unifyNewlines (h : IsPlain source) : IsPlain (Text.unifyNewlines source) := by
  intro opening hmem hstands
  refine h opening hmem ?_
  simp only [tagOpenings, List.mem_cons, List.not_mem_nil, or_false] at hmem
  rcases hmem with rfl | rfl | rfl <;>
    exact Text.infix_of_infix_unifyNewlines (by decide) (by decide) hstands

/-- The pieces of a text: itself, unless there is nothing to it. -/
def piecesOfText (s : Text) : List Text := if s.isEmpty then [] else [s]

theorem flatten_piecesOfText (s : Text) : (piecesOfText s).flatten = s := by
  cases s <;> simp [piecesOfText]

/-- **A source without tags is text**, with its line ends unified. -/
theorem parse?_of_isPlain (h : IsPlain source) :
    parse? source = some ((piecesOfText (Text.unifyNewlines source)).map Stmt.text) := by
  have htokens : tokens? source = some (dataToken (Text.unifyNewlines source)) := by
    rw [tokens?, tokensFrom, cutAtTag?_of_isPlain h.unifyNewlines]
  rw [parse?, htokens]
  cases Text.unifyNewlines source <;> rfl

theorem ofBody_piecesOfText (s : Text) :
    ofBody none ((piecesOfText s).map Stmt.text) =
      .ok ⟨(piecesOfText s).map Stmt.text, none, []⟩ := by
  cases s <;> rfl

/-! ### Steps in silence -/

/-- A step that comes to an end, with a result that has a property, and puts nothing out. -/
def Yields (good : α → Prop) (x : Work α) : Prop :=
  ∀ s, ∃ a s', x s = .ok a s' ∧ s'.out = s.out ∧ good a

namespace Yields

variable {good : α → Prop} {good' : β → Prop}

theorem pure {a : α} (h : good a) : Yields good (Pure.pure a : Work α) :=
  fun s => ⟨a, s, rfl, rfl, h⟩

theorem bind {x : Work α} {f : α → Work β} (hx : Yields good x)
    (hf : ∀ a, good a → Yields good' (f a)) : Yields good' (x >>= f) := by
  intro s
  obtain ⟨a, s₁, hxs, hout, ha⟩ := hx s
  obtain ⟨b, s₂, hfs, hout', hb⟩ := hf a ha s₁
  exact ⟨b, s₂, bind_eq_ok_iff.mpr ⟨a, s₁, hxs, hfs⟩, hout'.trans hout, hb⟩

theorem mapM (good' : β → Prop) {f : α → Work β} {xs : List α}
    (h : ∀ a ∈ xs, Yields good' (f a)) : Yields (fun _ => True) (xs.mapM f) := by
  induction xs with
  | nil => exact pure trivial
  | cons a as ih =>
    rw [List.forall_mem_cons] at h
    rw [List.mapM_cons]
    exact h.1.bind fun _ _ => (ih h.2).bind fun _ _ => pure trivial

end Yields

theorem allocate_yields (c : Cell) : Yields (fun _ => True) (allocate c) :=
  fun s => ⟨s.cells.size, _, rfl, rfl, trivial⟩

theorem refTo_yields (c : Cell) : Yields (fun _ => True) (refTo c) :=
  (allocate_yields c).bind fun _ _ => Yields.pure trivial

theorem setCell_yields (a : Address) (c : Cell) : Yields (fun _ => True) (setCell a c) :=
  fun _ => ⟨(), _, rfl, rfl, trivial⟩

/-! ### Variables -/

namespace Item

/-- A part of a value becomes a part of an item, whatever labels there are already. -/
def Loads (x : Loading α) : Prop := ∀ labels, Yields (fun _ => True) (x.run labels)

theorem Loads.pure (a : α) : Loads (Pure.pure a : Loading α) := fun _ => Yields.pure trivial

theorem Loads.bind {x : Loading α} {f : α → Loading β} (hx : Loads x) (hf : ∀ a, Loads (f a)) :
    Loads (x >>= f) :=
  fun labels => (hx labels).bind fun r _ => hf r.1 r.2

theorem Loads.lift {x : Work α} (h : Yields (fun _ => True) x) : Loads (liftM x : Loading α) :=
  fun _ => h.bind fun _ _ => Yields.pure trivial

theorem loads_get : Loads (get : Loading Labels) := fun _ => Yields.pure trivial

theorem loads_modify (f : Labels → Labels) : Loads (modify f : Loading PUnit) :=
  fun _ => Yields.pure trivial

theorem loads_newCell (c : Cell) : Loads (newCell c) := fun _ =>
  (refTo_yields c).bind fun _ _ => Yields.pure trivial

mutual

/-- **Every value becomes an item.** -/
theorem loads_load (v : Value) : Loads (load v) := by
  cases v with
  | list vs => exact (loads_loadAll vs).bind fun items => loads_newCell _
  | tuple vs => exact (loads_loadAll vs).bind fun items => .pure _
  | set vs => exact (loads_loadAll vs).bind fun items => loads_newCell _
  | map label es =>
    cases label with
    | none => exact (loads_loadEntries es).bind fun entries => loads_newCell _
    | some label =>
      refine loads_get.bind fun labels => ?_
      split
      · exact .pure _
      · exact (Loads.lift (allocate_yields _)).bind fun a => (loads_modify _).bind fun _ =>
          (loads_loadEntries es).bind fun entries =>
            (Loads.lift (setCell_yields a _)).bind fun _ => .pure _
  | cycle label ofMap =>
    refine loads_get.bind fun labels => ?_
    split
    · exact .pure _
    · exact loads_newCell _
  | _ => exact .pure _

theorem loads_loadAll (vs : List Value) : Loads (loadAll vs) := by
  cases vs with
  | nil => exact .pure _
  | cons v vs => exact (loads_load v).bind fun item => (loads_loadAll vs).bind fun items => .pure _

theorem loads_loadEntries (es : List (Value × Value)) : Loads (loadEntries es) := by
  cases es with
  | nil => exact .pure _
  | cons e es =>
    exact (loads_load e.1).bind fun key => (loads_load e.2).bind fun item =>
      (loads_loadEntries es).bind fun entries => .pure _

end

/-- The keys of variables become texts. -/
theorem loadEntries_yields (vars : List (Text × Value)) (labels : Labels) :
    Yields (fun r => ∀ e ∈ r.1, ∃ name, e.1 = .plain name)
      ((loadEntries (vars.map fun x => (.text x.1, x.2))).run labels) := by
  induction vars generalizing labels with
  | nil => exact Yields.pure (by simp)
  | cons x vars ih =>
    refine (loads_load x.2 labels).bind fun r _ => (ih r.2).bind fun rs hrs => Yields.pure ?_
    exact List.forall_mem_cons.mpr ⟨⟨x.1, rfl⟩, hrs⟩

end Item

/-- **Variables become items**, whatever their values are. -/
theorem loadVariables_yields (vars : List (Text × Value)) :
    Yields (fun _ => True) (loadVariables (vars.map fun x => (.text x.1, x.2))) := by
  refine (Item.loadEntries_yields vars []).bind fun r hr => Yields.mapM (fun _ => True) ?_
  rintro ⟨key, item⟩ hmem
  obtain ⟨name, rfl⟩ := hr _ hmem
  exact Yields.pure trivial

/-! ### Rendering -/

section Perform

variable {eng : Engine} {p : Place} {owner : Option Text} {state : State}

theorem cellAt_of_eq_some {a : Address} {c : Cell} (h : state.cells[a]? = some c) :
    cellAt a state = .ok c state := by
  rw [cellAt, h]

/-- Where the template is not known to be based on another one, output is not dropped. -/
theorem putGuarded_of_base (h : state.cells[p.base]? = some (.base false)) (s : Text) :
    putGuarded p s state = .ok () { state with out := s :: state.out } := by
  have hbased : isBased p state = .ok false state :=
    bind_eq_ok_iff.mpr ⟨.base false, state, cellAt_of_eq_some h, rfl⟩
  exact bind_eq_ok_iff.mpr ⟨false, state, hbased, by cases p.isGuarded <;> rfl⟩

/-- Texts at the top of a template are put out one after the other. -/
theorem performTops_text (h : state.cells[p.base]? = some (.base false)) (ss : List Text) :
    performTops eng p owner (ss.map Stmt.text) state =
      .ok none { state with out := ss.reverse ++ state.out } := by
  induction ss generalizing state with
  | nil => rfl
  | cons s ss ih =>
    have hfirst : performTop eng p owner (.text s) state =
        .ok none { state with out := s :: state.out } :=
      bind_eq_ok_iff.mpr ⟨(), _, putGuarded_of_base h s, rfl⟩
    have hbase : ({ state with out := s :: state.out } : State).cells[p.base]? =
        some (.base false) := h
    rw [List.map_cons, performTops, List.reverse_cons, List.append_assoc, List.singleton_append]
    exact bind_eq_ok_iff.mpr ⟨none, _, hfirst, bind_eq_ok_iff.mpr ⟨none, _, ih hbase, rfl⟩⟩

/-- Entering a scope makes a frame, which takes no cell away and puts nothing out. -/
theorem exists_enter {c : Context} (hscopes : p.scopes = [])
    (h : state.cells[p.context]? = some (.context c)) (scope : (Text → Bool) → Scope)
    (handed : List (Text × Item)) :
    ∃ a frame, enter p scope handed state =
      .ok { p with scopes := [a], isTop := false }
        { state with cells := state.cells.push (.frame frame) } := by
  have hframes : framesOf p state = .ok [] state := by
    rw [framesOf, hscopes]
    rfl
  have hcontext : contextAt p.context state = .ok c state :=
    bind_eq_ok_iff.mpr ⟨.context c, state, cellAt_of_eq_some h, rfl⟩
  obtain ⟨frame, hframe⟩ : ∃ frame, newFrame p scope handed state = .ok frame state :=
    ⟨_, bind_eq_ok_iff.mpr ⟨[], state, hframes, bind_eq_ok_iff.mpr ⟨c, state, hcontext, rfl⟩⟩⟩
  exact ⟨state.cells.size, frame, bind_eq_ok_iff.mpr ⟨frame, state, hframe, by rw [hscopes]; rfl⟩⟩

/-- A template of texts puts them out. -/
theorem exists_runTemplate_text {context : Address} {c : Context}
    (h : state.cells[context]? = some (.context c)) (ss : List Text) :
    ∃ state', runTemplate eng owner ⟨ss.map Stmt.text, none, []⟩ context state = .ok () state' ∧
      state'.out = ss.reverse ++ state.out := by
  let based : State := { state with cells := state.cells.push (.base false) }
  let outside : Place := ⟨[], context, state.cells.size, false, true, false⟩
  have hlt : context < state.cells.size := (Array.getElem?_eq_some_iff.mp h).1
  have hcontext : based.cells[outside.context]? = some (.context c) := by
    rw [Array.getElem?_push, if_neg (Nat.ne_of_lt hlt), h]
  obtain ⟨a, frame, henter⟩ := exists_enter rfl hcontext
    (fun outer => Scope.ofBody outer [] (ss.map Stmt.text)) []
  have hbase : (based.cells.push (.frame frame))[state.cells.size]? = some (.base false) := by
    rw [Array.getElem?_push, if_neg (by simp [based]), Array.getElem?_push_size]
  refine ⟨_, bind_eq_ok_iff.mpr ⟨state.cells.size, based, rfl, bind_eq_ok_iff.mpr ⟨_, _, henter,
    bind_eq_ok_iff.mpr ⟨none, _, performTops_text hbase ss, rfl⟩⟩⟩, rfl⟩

end Perform

namespace Registry

/-- Texts are rendered as they are. -/
theorem render_text (r : Registry) (ss : List Text) (vars : List (Text × Value)) :
    (r.render none ⟨ss.map Stmt.text, none, []⟩ (vars.map fun x => (.text x.1, x.2))).1 =
      .ok ss.flatten := by
  obtain ⟨given, loaded, hload, hout, -⟩ := loadVariables_yields vars r.start
  let context : Context := .ofTemplate ⟨ss.map Stmt.text, none, []⟩ (given ++ commonNames)
  let ready : State := { loaded with cells := loaded.cells.push (.context context) }
  have hcontext : ready.cells[loaded.cells.size]? = some (.context context) :=
    Array.getElem?_push_size
  have hempty : ready.out = [] := hout
  obtain ⟨state, hrun, hstate⟩ : ∃ state, (Engine.ofDepth r.strict r.find depth).run none
      ⟨ss.map Stmt.text, none, []⟩ loaded.cells.size ready = .ok () state ∧
        state.out = ss.reverse ++ ready.out :=
    exists_runTemplate_text hcontext ss
  have hwork : (do
      let given ← loadVariables (vars.map fun x => (.text x.1, x.2))
      let context ← allocate (.context (.ofTemplate ⟨ss.map Stmt.text, none, []⟩
        (given ++ commonNames)))
      (Engine.ofDepth r.strict r.find depth).run none ⟨ss.map Stmt.text, none, []⟩ context :
        Work Unit).run r.start = .ok () state :=
    bind_eq_ok_iff.mpr ⟨given, loaded, hload, bind_eq_ok_iff.mpr ⟨_, ready, rfl, hrun⟩⟩
  have htext : state.out.reverse.flatten = ss.flatten := by
    rw [hstate, hempty, List.append_nil, List.reverse_reverse]
  rw [render, hwork]
  exact congrArg Except.ok htext

/-- **A source without tags is rendered to itself**, with its line ends unified, whatever the
variables are. -/
theorem renderSource_of_isPlain (h : IsPlain source) (r : Registry) (vars : List (Text × Value)) :
    r.renderSource source (vars.map fun x => (.text x.1, x.2)) =
      .ok (Text.unifyNewlines source) := by
  have hrender := r.render_text (piecesOfText (Text.unifyNewlines source)) vars
  rw [flatten_piecesOfText] at hrender
  rw [renderSource, useSource, parse?_of_isPlain h]
  simp only [ofBody_piecesOfText, renderIfUsable, hrender]
  rfl

end Registry

end Template

end Scaffold
