import Scaffold.Proofs.Template.Missing.Filter
import Scaffold.Proofs.Template.Shape
import Scaffold.Template.Evaluate

/-!
# Expressions find every template

Expressions name templates, but do not look them up. What they can do is call something whose body
is carried out by the engine: a routine, a block, a loop. These were made from statements that come
to no template that is missing, and the engine is one that carries such statements out.

## Main definitions

* `Template.Engine.IsSupplied` — an engine that finds every template if its statements do

## Main results

* `Template.FindsAll.callItem` — calls
* `Template.FindsAll.eval` — expressions
-/

namespace Scaffold

namespace Template

open Item

variable {α : Type} {ok : List Stmt → Prop}

/-- An engine that never comes to a template that is missing, as long as it is given statements
that do not. -/
structure Engine.IsSupplied (ok : List Stmt → Prop) (eng : Engine) : Prop where
  eval (p : Place) (e : Expr) : FindsAll ok (eng.eval p e)
  exec {body : List Stmt} (p : Place) (h : ok body) : FindsAll ok (eng.exec p body)
  loop {stmt : Stmt} (p : Place) (item : Item) (depth : Nat) (h : ok [stmt]) :
    FindsAll ok (eng.loop p stmt item depth)
  run {t : Template} (owner : Option Text) (context : Address) (h : ok t.body) :
    FindsAll ok (eng.run owner t context)

attribute [grind ←] Engine.IsSupplied.eval Engine.IsSupplied.exec Engine.IsSupplied.loop
  Engine.IsSupplied.run

/-! ### Places -/

theorem Supplies.contextAt (a : Address) :
    Supplies ok (fun c => Cell.IsSupplied ok (.context c)) NotMissing (contextAt a) := by
  refine (Supplies.cellAt a).bind fun c hc => ?_
  split
  · exact Supplies.pure hc
  · exact Supplies.throw (by decide)

namespace FindsAll

@[grind ←] theorem contextAt_bind {a : Address} {k : Context → Work α}
    (hk : ∀ c, Cell.IsSupplied ok (.context c) → FindsAll ok (k c)) :
    FindsAll ok (contextAt a >>= k) :=
  (Supplies.contextAt a).bind hk

@[grind ←] theorem isBased (p : Place) : FindsAll ok (isBased p) := by
  grind [Template.isBased]

@[grind ←] theorem putGuarded (p : Place) (s : Text) : FindsAll ok (putGuarded p s) := by
  grind [Template.putGuarded]

@[grind ←] theorem framesOf (p : Place) : FindsAll ok (framesOf p) := by
  grind [Template.framesOf]

@[grind ←] theorem newFrame (p : Place) (scope : (Text → Bool) → Scope)
    (handed : List (Text × Item)) : FindsAll ok (newFrame p scope handed) := by
  grind [Template.newFrame]

@[grind ←] theorem enter (p : Place) (scope : (Text → Bool) → Scope)
    (handed : List (Text × Item)) : FindsAll ok (enter p scope handed) := by
  grind [Template.enter]

@[grind ←] theorem readName (strict : Bool) (p : Place) (name : Text) :
    FindsAll ok (readName strict p name) := by
  grind [Template.readName]

@[grind ←] theorem localNames (p : Place) : FindsAll ok (localNames p) := by
  grind [Template.localNames]

@[grind ←] theorem bindName (p : Place) (name : Text) (item : Item) (isExported : Bool) :
    FindsAll ok (bindName p name item isExported) := by
  unfold Template.bindName
  extract_lets exports
  have hexports (x : PUnit) : FindsAll ok (exports x) := by
    refine ite (contextAt_bind fun c hc => setCell ?_) (pure _)
    exact hc
  clear_value exports
  grind

@[grind ←] theorem spaceNamed (p : Place) (name : Text) : FindsAll ok (spaceNamed p name) := by
  refine (framesOf p).bind fun frames => ?_
  grind

mutual

theorem bindTarget (p : Place) (item : Item) (t : Target) : FindsAll ok (bindTarget p item t) := by
  cases t with
  | name s => exact bindName p s item true
  | field object member => exact (spaceNamed p object).bind fun space => setCell trivial
  | tuple targets =>
    have htargets (items : List Item) := bindTargets p items targets
    unfold Template.bindTarget
    grind

theorem bindTargets (p : Place) (items : List Item) (ts : List Target) :
    FindsAll ok (bindTargets p items ts) := by
  cases ts with
  | nil => cases items <;> exact pure ()
  | cons t ts =>
    cases items with
    | nil => exact pure ()
    | cons item items => exact (bindTarget p item t).bind fun _ => bindTargets p items ts

end

attribute [grind ←] bindTarget bindTargets

/-! ### Bodies that are carried out later -/

variable {eng : Engine}

@[grind ←] theorem runBlock (heng : eng.IsSupplied ok) (name : Text) (depth : Nat)
    (context : Address) : FindsAll ok (runBlock eng name depth context) := by
  refine contextAt_bind fun c hc => ?_
  dsimp only
  split
  · exact throw (by decide)
  · next code hcode =>
    have hbody : ok code.body := by
      cases hblocks : c.blocks.lookup name with
      | none => simp [hblocks] at hcode
      | some codes =>
        rw [hblocks, Option.getD_some] at hcode
        exact hc (name, codes) (mem_of_lookup hblocks) code (List.mem_of_getElem? hcode)
    refine (allocate (c := .base false) trivial).bind fun base => (enter _ _ _).bind fun p => ?_
    exact heng.exec p hbody

@[grind ←] theorem handed (strict : Bool) (r : Routine) (g : Given) :
    FindsAll ok (r.handed strict g) := by
  unfold Routine.handed
  grind

@[grind ←] theorem callRoutine (heng : eng.IsSupplied ok) (escapes : Bool) {r : Routine}
    (g : Given) (hr : ok r.body) : FindsAll ok (callRoutine eng escapes r g) := by
  refine (handed _ r g).bind fun given => (enter _ _ _).bind fun p => ?_
  refine (forIn fun x _ => ?_).bind fun _ => (captured (heng.exec p hr)).bind fun s => pure _
  grind

@[grind ←] theorem passes (heng : eng.IsSupplied ok) (test : Option (Target × Expr × Place))
    (item : Item) : FindsAll ok (passes eng test item) := by
  unfold Template.passes
  split
  · exact pure true
  · next target e p =>
    refine (enter _ _ _).bind fun p => (bindTarget p item target).bind fun _ => ?_
    grind

@[grind ←] theorem firstPassing (heng : eng.IsSupplied ok)
    (test : Option (Target × Expr × Place)) {failure : Option Fault} (items : List Item)
    (h : failure ≠ some .missingTemplate) :
    FindsAll ok (firstPassing eng test failure items) := by
  fun_induction Template.firstPassing <;> grind

end FindsAll

theorem Supplies.loopAt (a : Address) :
    Supplies ok (fun l => Cell.IsSupplied ok (.loop l)) NotMissing (loopAt a) := by
  refine (Supplies.cellAt a).bind fun c hc => ?_
  split
  · exact Supplies.pure hc
  · exact Supplies.throw (by decide)

namespace FindsAll

variable {eng : Engine}

@[grind ←] theorem loopAt_bind {a : Address} {k : LoopState → Work α}
    (hk : ∀ l, Cell.IsSupplied ok (.loop l) → FindsAll ok (k l)) :
    FindsAll ok (loopAt a >>= k) :=
  (Supplies.loopAt a).bind hk

@[grind ←] theorem peek (heng : eng.IsSupplied ok) (a : Address) :
    FindsAll ok (peek eng a) := by
  grind [Template.peek]

@[grind ←] theorem advance (heng : eng.IsSupplied ok) (a : Address) (isFirst : Bool) :
    FindsAll ok (advance eng a isFirst) := by
  grind [Template.advance]

@[grind ←] theorem lengthOf (heng : eng.IsSupplied ok) (a : Address) :
    FindsAll ok (lengthOf eng a) := by
  refine loopAt_bind fun l hl => ?_
  split
  · exact pure _
  · grind
  · refine (filterM fun i => passes heng _ i).bind ?_
    intro passing
    extract_lets n source record
    have hrecord (x : PUnit) : FindsAll ok (record x) := by
      grind
    clear_value record
    split
    · next f hf => exact (throw fun h => hl.2 (h ▸ hf)).bind hrecord
    · exact hrecord _

@[grind ←] theorem loopMember? (heng : eng.IsSupplied ok) (a : Address) (name : Text) :
    FindsAll ok (loopMember? eng a name) := by
  grind [Template.loopMember?]

@[grind ←] theorem turns (heng : eng.IsSupplied ok) (a : Address) {turn : Item → Work Unit}
    (most : Nat) (isFirst : Bool) (h : ∀ item, FindsAll ok (turn item)) :
    FindsAll ok (turns eng a turn most isFirst) := by
  fun_induction Template.turns <;> grind

@[grind ←] theorem callItem (heng : eng.IsSupplied ok) (p : Place) (callee : Item) (g : Given) :
    FindsAll ok (callItem eng p callee g) := by
  unfold Template.callItem
  split
  case h_5 a =>
    refine cellAt_bind fun c hc => ?_
    split
    case h_3 l =>
      refine forParameters_bind fun items => ?_
      split
      · split
        · next stmt place hagain =>
          exact (captured (heng.loop place _ _ (hc.1 _ hagain))).bind fun s => pure _
        · exact throw (by decide)
      · exact throw (by decide)
    all_goals grind
  all_goals grind

/-! ### Expressions -/

@[grind ←] theorem memberOf (heng : eng.IsSupplied ok) (item : Item) (name : Text) :
    FindsAll ok (memberOf eng item name) := by
  unfold Template.memberOf
  grind

@[grind ←] theorem entryOf (heng : eng.IsSupplied ok) (item key : Item) :
    FindsAll ok (entryOf eng item key) := by
  unfold Template.entryOf
  split
  · refine cellAt_bind fun c _ => ite ?_ (indexed _ _ _)
    grind
  · exact indexed _ _ _

@[grind ←] theorem applyFilter (p : Place) (name : Text) (item : Item) (g : Given) :
    FindsAll ok (applyFilter eng p name item g) := by
  grind [Template.applyFilter]

@[grind ←] theorem applyTest (name : Text) (item : Item) (g : Given) :
    FindsAll ok (applyTest name item g) := by
  grind [Template.applyTest]

@[grind ←] theorem namesOfMapping (item : Item) : FindsAll ok (namesOfMapping item) := by
  fun_cases Template.namesOfMapping <;> grind

@[grind ←] theorem addNamed (g : Given) (name : Text) (item : Item) :
    FindsAll ok (g.addNamed name item) := by
  grind [Given.addNamed]

variable {p : Place}

mutual

/-- Expressions look up no templates themselves. -/
theorem eval (heng : eng.IsSupplied ok) (held : Item) (e : Expr) :
    FindsAll ok (eval eng p held e) := by
  rw [Template.eval.eq_def]
  cases e with
  | null | bool | integer | float | string => exact pure _
  | name s => exact readName _ p s
  | list es => exact (evalAll heng held es).bind fun items => newList items
  | tuple es => exact (evalAll heng held es).bind fun items => pure _
  | map es =>
    refine (evalEntries heng held es).bind fun entries => ?_
    exact (putEntries _ entries).bind fun es => newMap es
  | unary op e => exact (eval heng held e).bind fun x => operateOn op x
  | binary op a b =>
    exact (eval heng held a).bind fun x => (eval heng held b).bind fun y => operate op x y
  | both a b =>
    exact (eval heng held a).bind fun x => (isTrue x).bind fun _ => ite (eval heng held b) (pure x)
  | either a b =>
    exact (eval heng held a).bind fun x => (isTrue x).bind fun _ => ite (pure x) (eval heng held b)
  | joined es => exact (evalAll heng held es).bind fun items => joinTexts _ items
  | compare e es => exact (eval heng held e).bind fun x => compareAll heng held x es
  | choice test yes no =>
    refine (eval heng held test).bind fun x => (isTrue x).bind fun _ => ite (eval heng held yes) ?_
    exact (evalOption heng held no).bind fun _ => pure _
  | member e name => exact (eval heng held e).bind fun x => memberOf heng x name
  | item e index =>
    have hentry : FindsAll ok (do
        let x ← Template.eval eng p held e
        let key ← Template.eval eng p held index
        Template.entryOf eng x key) :=
      (eval heng held e).bind fun x => (eval heng held index).bind fun key => entryOf heng x key
    cases index with
    | slice a b c =>
      refine (eval heng held e).bind fun x => (evalOption heng held a).bind fun start => ?_
      refine (evalOption heng held b).bind fun stop => (evalOption heng held c).bind fun step => ?_
      exact slice _ _ _ _
    | _ => exact hentry
  | slice => exact throw (by decide)
  | call f args =>
    refine (eval heng held f).bind fun callee => (evalArguments heng held args).bind fun g => ?_
    exact callItem heng p callee g
  | filter subject name args =>
    refine (evalOption heng held subject).bind fun x => ?_
    refine (evalArguments heng held args).bind fun g => ?_
    exact applyFilter p name _ g
  | test subject name args =>
    refine (eval heng held subject).bind fun x => ?_
    exact (evalArguments heng held args).bind fun g => applyTest name x g

theorem evalAll (heng : eng.IsSupplied ok) (held : Item) (es : List Expr) :
    FindsAll ok (evalAll eng p held es) := by
  rw [Template.evalAll.eq_def]
  cases es with
  | nil => exact pure []
  | cons e es => exact (eval heng held e).bind fun x => (evalAll heng held es).bind fun xs => pure _

theorem evalOption (heng : eng.IsSupplied ok) (held : Item) (e : Option Expr) :
    FindsAll ok (evalOption eng p held e) := by
  rw [Template.evalOption.eq_def]
  cases e with
  | none => exact pure none
  | some e => exact (eval heng held e).functorMap

theorem evalEntries (heng : eng.IsSupplied ok) (held : Item) (es : List (Expr × Expr)) :
    FindsAll ok (evalEntries eng p held es) := by
  rw [Template.evalEntries.eq_def]
  cases es with
  | nil => exact pure []
  | cons entry es =>
    obtain ⟨k, v⟩ := entry
    refine (eval heng held k).bind fun key => (eval heng held v).bind fun value => ?_
    exact (evalEntries heng held es).bind fun entries => pure _

theorem compareAll (heng : eng.IsSupplied ok) (held x : Item) (es : List (Comparison × Expr)) :
    FindsAll ok (compareAll eng p held x es) := by
  rw [Template.compareAll.eq_def]
  cases es with
  | nil => exact pure _
  | cons operand es =>
    obtain ⟨c, e⟩ := operand
    refine (eval heng held e).bind fun y => (compareItems c x y).bind fun _ => ?_
    exact ite (compareAll heng held y es) (pure _)

theorem evalArgument (heng : eng.IsSupplied ok) (held : Item) (g : Given) (a : Argument Expr) :
    FindsAll ok (evalArgument eng p held g a) := by
  rw [Template.evalArgument.eq_def]
  cases a with
  | positional e => exact (eval heng held e).bind fun x => pure _
  | named name e => exact (eval heng held e).bind fun x => addNamed g name x
  | spread e => exact (eval heng held e).bind fun x => (takeAll x).bind fun items => pure _
  | spreadNamed e =>
    refine (eval heng held e).bind fun x => (namesOfMapping x).bind fun names => ?_
    exact foldlM fun g x => addNamed g x.1 x.2

theorem evalArgumentsOnto (heng : eng.IsSupplied ok) (held : Item) (g : Given)
    (args : List (Argument Expr)) :
    FindsAll ok (evalArgumentsOnto eng p held g args) := by
  rw [Template.evalArgumentsOnto.eq_def]
  cases args with
  | nil => exact pure g
  | cons a args =>
    exact (evalArgument heng held g a).bind fun g => evalArgumentsOnto heng held g args

theorem evalArguments (heng : eng.IsSupplied ok) (held : Item) (args : List (Argument Expr)) :
    FindsAll ok (evalArguments eng p held args) := by
  rw [Template.evalArguments.eq_def]
  exact evalArgumentsOnto heng held _ args

end

attribute [grind ←] eval evalAll evalArguments

end FindsAll

end Template

end Scaffold
