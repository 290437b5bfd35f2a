import Scaffold.Proofs.Template.Missing.Item

/-!
# Members and operators find every template

What is done with items in cells: they are taken, compared, written down, put together and called.

## Main results

* `Template.FindsAll.operate` — operators
* `Template.FindsAll.callMember` — members that are called
* `Template.FindsAll.callBuiltin` — the functions that every template has
-/

namespace Scaffold

namespace Template

open Item

variable {α : Type} {cells : Array Cell} {ok : List Stmt → Prop}

namespace NeverMissing

/-! ### Parts of steps -/

@[grind ←] theorem putEntry (key item : Item) (es : List (Item × Item)) :
    NeverMissing (putEntry cells key item es) := by
  fun_induction Item.putEntry <;> grind

@[grind ←] theorem dropEntry (key : Item) (es : List (Item × Item)) :
    NeverMissing (dropEntry cells key es) := by
  fun_induction Item.dropEntry <;> grind

@[grind ←] theorem placeOf (item : Item) (n : Nat) (items : List Item) :
    NeverMissing (placeOf cells item n items) := by
  fun_induction Item.placeOf <;> grind

@[grind ←] theorem timesAmong (item : Item) (items : List Item) :
    NeverMissing (timesAmong cells item items) := by
  grind [Item.timesAmong]

@[grind ←] theorem callNumber (n : Number) (name : Text) (g : Given) :
    NeverMissing (callNumber n name g) := by
  grind [Item.callNumber]

@[grind ←] theorem callBytes (b : List UInt8) (name : Text) (g : Given) :
    NeverMissing (callBytes b name g) := by
  grind [Item.callBytes]

@[grind ←] theorem newRange (g : Given) : NeverMissing (newRange g) := by
  grind [Item.newRange]

end NeverMissing

/-! ### Taking items -/

/-- Items behind which no missing template comes. -/
abbrev EndWell (x : List Item × Option Fault) : Prop := x.2 ≠ some .missingTemplate

theorem contents_gives (hcells : AreSupplied ok cells) (item : Item) :
    Gives EndWell NotMissing (item.contents cells) := by
  fun_cases Item.contents
  case case12 hcell => exact hcells _ _ hcell
  all_goals simp [Gives]

theorem Supplies.contents_bind {good : α → Prop} {item : Item}
    {k : List Item × Option Fault → Work α}
    (hk : ∀ items failure, failure ≠ some .missingTemplate →
      Supplies ok good NotMissing (k (items, failure))) :
    Supplies ok good NotMissing
      (Template.heap >>= fun cells => Template.lift (item.contents cells) >>= k) :=
  Supplies.heap.bind fun _ hcells =>
    (Supplies.lift (contents_gives hcells item)).bind fun _ => hk _ _

namespace FindsAll

@[grind ←] theorem setStream (a : Address) (rest : List Item) {failure : Option Fault}
    (h : failure ≠ some .missingTemplate) :
    FindsAll ok (Template.setCell a (.stream rest failure)) :=
  setCell h

@[grind ←] theorem takeAll (item : Item) : FindsAll ok (takeAll item) := by
  refine Supplies.contents_bind fun items failure hfailure => ?_
  show FindsAll ok _
  grind

/-- The fault that comes behind the items that are taken is no missing template. -/
theorem takeLazily (item : Item) :
    Supplies ok EndWell NotMissing (takeLazily item) := by
  refine Supplies.contents_bind fun items failure hfailure => ?_
  have hdone : Supplies ok EndWell NotMissing
      (Pure.pure (items, failure) : Work (List Item × Option Fault)) :=
    Supplies.pure hfailure
  dsimp only
  split
  · refine (Supplies.cellAt _).bind fun c _ => ?_
    split
    · exact Supplies.bind (setStream _ [] nofun) fun _ _ => hdone
    · exact hdone
  · exact hdone

@[grind ←] theorem takeFirst (item : Item) : FindsAll ok (takeFirst item) := by
  refine Supplies.contents_bind fun items failure hfailure => ?_
  show FindsAll ok _
  grind

@[grind ←] theorem isIn (item whole : Item) : FindsAll ok (isIn item whole) := by
  refine heap_bind fun cells => (lift (.isInside _ _)).bind fun found => ?_
  split
  · refine cellAt_bind fun c hc => ?_
    split
    · next rest failure =>
      have hfailure : failure ≠ some .missingTemplate := hc
      refine (lift (.leftBehind _ _ .equal)).bind fun rest => ?_
      refine (setStream _ _ hfailure).bind fun _ => ?_
      split
      · split
        · exact (throw (by grind)).bind fun _ => pure _
        · exact pure _
      · exact pure _
    · exact pure _
  · exact pure _

@[grind ←] theorem isTrue (item : Item) : FindsAll ok (isTrue item) := by
  grind [Template.isTrue]

@[grind ←] theorem areEqual (a b : Item) : FindsAll ok (areEqual a b) := by
  grind [Template.areEqual]

@[grind ←] theorem compareItems (c : Comparison) (a b : Item) :
    FindsAll ok (compareItems c a b) := by
  fun_cases Template.compareItems <;> grind

@[grind ←] theorem writtenText (item : Item) : FindsAll ok (writtenText item) := by
  grind [Template.writtenText]

@[grind ←] theorem slice (item start stop step : Item) :
    FindsAll ok (slice item start stop step) := by
  fun_cases Item.slice <;> grind

/-! ### Operators -/

@[grind ←] theorem repeatItem (item : Item) (n : Int) : FindsAll ok (repeatItem item n) := by
  fun_cases Item.repeatItem <;> grind

@[grind ←] theorem onTwo {f : Number → Number → Except Fault Item} (a b : Item)
    (h : ∀ x y, NeverMissing (f x y)) : FindsAll ok (onTwo f a b) := by
  fun_cases Item.onTwo <;> grind

@[grind ←] theorem add (a b : Item) : FindsAll ok (add a b) := by
  fun_cases Item.add <;> grind

@[grind ←] theorem mul (a b : Item) : FindsAll ok (mul a b) := by
  fun_cases Item.mul <;> grind

@[grind ←] theorem mod (a b : Item) : FindsAll ok (mod a b) := by
  fun_cases Item.mod <;> grind

@[grind ←] theorem sub (a b : Item) : FindsAll ok (sub a b) := by
  fun_cases Item.sub
  · refine cellAt_bind fun c _ => cellAt_bind fun d _ => ?_
    split
    · refine heap_bind fun cells => (filterM fun i => ?_).bind fun kept => refTo trivial
      grind
    · exact throw (by decide)
  · grind

@[grind ←] theorem operate (op : Binary) (a b : Item) : FindsAll ok (operate op a b) := by
  fun_cases Item.operate <;> grind

@[grind ←] theorem operateOn (op : Unary) (a : Item) : FindsAll ok (operateOn op a) := by
  cases op <;> grind [Item.operateOn]

@[grind ←] theorem joinTexts (escapes : Bool) (items : List Item) :
    FindsAll ok (joinTexts escapes items) := by
  grind [Item.joinTexts]

/-! ### Members -/

@[grind ←] theorem member? (item : Item) (name : Text) : FindsAll ok (member? item name) := by
  grind [Item.member?]

@[grind ←] theorem entry? (item key : Item) : FindsAll ok <| entry? item key := by
  fun_cases Item.entry? <;> grind

@[grind ←] theorem dotted (strict : Bool) (item : Item) (name : Text) :
    FindsAll ok (dotted strict item name) := by
  grind [Item.dotted]

@[grind ←] theorem indexed (strict : Bool) (item key : Item) :
    FindsAll ok (indexed strict item key) := by
  unfold Item.indexed
  grind

/-! ### Calling members -/

@[grind ←] theorem putEntries (entries more : List (Item × Item)) :
    FindsAll ok (putEntries entries more) := by
  grind [Item.putEntries]

@[grind ←] theorem entriesOf (item : Item) : FindsAll ok (entriesOf item) := by
  unfold Item.entriesOf
  extract_lets pairs
  have hpairs : FindsAll ok pairs := by
    grind
  clear_value pairs
  grind

@[grind ←] theorem entriesGiven (g : Given) : FindsAll ok (entriesGiven g) := by
  grind [Item.entriesGiven]

@[grind ←] theorem distinct (items : List Item) : FindsAll ok (distinct items) := by
  refine heap_bind fun cells => (foldlM fun kept i => ?_).bind fun kept => pure _
  grind

@[grind ←] theorem searchItems (items : List Item) (name : Text) (g : Given) :
    FindsAll ok (searchItems items name g) := by
  refine heap_bind fun cells => ?_
  split
  · grind
  · refine (lift (.onlyByPosition g _)).bind fun given => ?_
    split
    · refine (lift (.wholeOf _)).bind fun first => (lift (.wholeOf _)).bind fun last => ?_
      grind
    · grind

@[grind ←] theorem callList (a : Address) (items : List Item) (name : Text) (g : Given) :
    FindsAll ok (callList a items name g) := by
  unfold Item.callList
  extract_lets is given
  have hgiven (ps : List Parameter) : FindsAll ok (given ps) := lift (.onlyByPosition g ps)
  clear_value given
  refine heap_bind fun cells => ?_
  repeat' apply ite
  any_goals refine (hgiven _).bind fun items => ?_
  case h'.h'.h'.h'.h'.h =>
    refine (lift (.forParameters _ _)).bind fun items => ?_
    split <;> grind
  all_goals grind

@[grind ←] theorem callMap (a : Address) (es : List (Item × Item)) (name : Text) (g : Given) :
    FindsAll ok (callMap a es name g) := by
  unfold Item.callMap
  extract_lets is given
  have hgiven (ps : List Parameter) : FindsAll ok (given ps) := lift (.onlyByPosition g ps)
  clear_value given
  refine heap_bind ?_
  intro cells
  extract_lets find
  have hfind (key : Item) : FindsAll ok (find key) := by
    grind
  clear_value find
  repeat' apply ite
  any_goals refine (hgiven _).bind fun items => ?_
  case h'.h'.h =>
    split
    · exact (hfind _).bind fun found => by grind
    · exact throw (by decide)
  all_goals grind

@[grind ←] theorem callSet (a : Address) (items : List Item) (name : Text) (g : Given) :
    FindsAll ok (callSet a items name g) := by
  unfold Item.callSet
  extract_lets is
  refine heap_bind ?_
  intro cells
  extract_lets has without
  have hhas (i : Item) (items : List Item) : FindsAll ok (has i items) := by
    grind
  clear_value has
  have hwithout (i : Item) : FindsAll ok (without i) := by
    grind
  clear_value without
  refine ite (by grind) (ite (by grind) ((lift (.onlyByPosition g _)).bind fun given => ?_))
  split
  · repeat' apply ite
    all_goals grind
  · grind

@[grind ←] theorem callCycler (a : Address) (items : List Item) (position : Nat) (name : Text)
    (g : Given) : FindsAll ok (callCycler a items position name g) := by
  grind [Item.callCycler]

@[grind ←] theorem callLoop {a : Address} {l : LoopState} (name : Text) (g : Given)
    (hl : Cell.IsSupplied ok (.loop l)) : FindsAll ok (callLoop a l name g) := by
  unfold Item.callLoop
  extract_lets turn changed answer
  have hchanged (isSeen : Bool) : FindsAll ok (changed isSeen) := by
    grind
  clear_value changed
  have hanswer (x : PUnit) : FindsAll ok (answer x) := by
    grind
  clear_value answer
  grind

/-! ### Members of texts -/

namespace TextMethod

@[grind ←] theorem listOf (safe : Bool) (parts : List Text) :
    FindsAll ok (TextMethod.listOf safe parts) := newList _

@[grind ←] theorem split (safe fromBack : Bool) (s : Text) (g : Given) :
    FindsAll ok (TextMethod.split safe fromBack s g) := by
  refine (lift (.forParameters g _)).bind fun given => ?_
  split
  · refine (lift (.wholeOf _)).bind fun limit => ?_
    grind
  · grind

@[grind ←] theorem partition (safe fromBack : Bool) (s : Text) (g : Given) :
    FindsAll ok (TextMethod.partition safe fromBack s g) := by
  refine (lift (.onlyByPosition g _)).bind fun given => ?_
  grind

@[grind ←] theorem join (safe : Bool) (s : Text) (g : Given) :
    FindsAll ok (TextMethod.join safe s g) := by
  refine (lift (.onlyByPosition g _)).bind fun given => ?_
  split
  · refine (takeAll _).bind fun items => (mapM fun i => ?_).bind fun parts => pure _
    grind
  · grind

@[grind ←] theorem mapCharacters (safe : Bool) (s : Text) (g : Given) :
    FindsAll ok (TextMethod.mapCharacters safe s g) := by
  refine (lift (.onlyByPosition g _)).bind fun given => ?_
  split
  · refine heap_bind fun cells => (mapM fun c => ?_).bind fun parts => pure _
    grind
  · grind

@[grind ←] theorem call (safe : Bool) (s name : Text) (g : Given) :
    FindsAll ok (TextMethod.call safe s name g) := by
  unfold Item.TextMethod.call
  have hsearch := NeverMissing.search? name s g
  have hedited := NeverMissing.edited? safe name s g
  split
  · grind
  split
  · grind
  split
  · grind
  split
  · grind
  repeat' apply ite
  all_goals grind

end TextMethod

/-! ### Calling members and functions -/

@[grind ←] theorem callText (safe : Bool) (s name : Text) (g : Given) :
    FindsAll ok (callText safe s name g) := by
  refine ite (by grind) (ite ?_ (by grind))
  refine (lift (.onlyByPosition g _)).bind fun given => ?_
  grind

@[grind ←] theorem callMember (item : Item) (name : Text) (g : Given) :
    FindsAll ok (callMember item name g) := by
  fun_cases Item.callMember <;> grind

@[grind ←] theorem callBuiltin (f : Builtin) (g : Given) : FindsAll ok (callBuiltin f g) := by
  fun_cases Item.callBuiltin <;> grind

end FindsAll

end Template

end Scaffold
