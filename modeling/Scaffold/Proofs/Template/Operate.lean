import Scaffold.Proofs.Template.Sound

/-!
# Operations on sound items

What operators, filters and tests make of sound items is sound, and the faults that they come to are
those that they risk.
-/

namespace Scaffold

namespace Template

variable {E : Reckoning} {σ : Shapes} {a b item key whole : Item} {items : List Item}

/-- A cell that a sound item refers to. -/
def Cell.IsReferred (E : Reckoning) (σ : Shapes) (c : Cell) : Prop :=
  c.Fits E σ .value ∨ c.Fits E σ .loop ∧ E.has .badValue

/-- No sound item refers to items that can be taken only once. -/
theorem Cell.not_isReferred_stream {rest : List Item} {failure : Option Fault} :
    ¬(Cell.stream rest failure).IsReferred E σ := by
  rintro (h | ⟨h, -⟩) <;> cases h

theorem Cell.IsReferred.list (h : (Cell.list items).IsReferred E σ) : AreSound E σ items := by
  rcases h with h | ⟨h, -⟩ <;> cases h
  assumption

theorem Cell.IsReferred.set (h : (Cell.set items).IsReferred E σ) : AreSound E σ items := by
  rcases h with h | ⟨h, -⟩ <;> cases h
  assumption

namespace Looks

/-! ### Truth and comparison -/

theorem isTrue (h : item.IsSound E σ) : Looks E σ (fun _ => True) (isTrue item) :=
  heap_lift fun cells _ => Item.truth_fails cells h

theorem areEqual (ha : a.IsSound E σ) (hb : b.IsSound E σ) :
    Looks E σ (fun _ => True) (areEqual a b) :=
  heap_lift fun _ hd => Item.equal_fails hd ha hb

/-- What a sound item refers to. -/
theorem cellAt_ref {address : Address} (h : (Item.ref address).IsSound E σ) :
    Looks E σ (fun c => c.IsReferred E σ) (Template.cellAt address) := by
  cases h with
  | value ha => exact (cellAt ha).mono fun c hc => .inl hc
  | loop ha hlong => exact (cellAt ha).mono fun c hc => .inr ⟨hc, hlong⟩

theorem isIn (hunfit : E.has .unfit) (ha : a.IsSound E σ) (hb : b.IsSound E σ) :
    Looks E σ (fun _ => True) (isIn a b) := by
  refine heap.seq fun cells hd => ?_
  refine (lift (Item.isInside_fails hunfit hd ha hb)).seq fun found _ => ?_
  split
  · refine (cellAt_ref hb).seq fun c hc => ?_
    split
    · exact absurd hc Cell.not_isReferred_stream
    · exact pure trivial
  · exact pure trivial

/-- Sound items compare as asked, if it is reckoned with what the comparison risks. -/
theorem compareItems {c : Comparison} (hc : E.hasAll c.risks) (ha : a.IsSound E σ)
    (hb : b.IsSound E σ) : Looks E σ (fun _ => True) (compareItems c a b) := by
  have hordered (hunfit : E.has .unfit) : Looks E σ (fun _ => True)
      (do Template.lift (Item.ordered (← Template.heap) c a b)) :=
    heap_lift fun _ hd => Item.ordered_fails hunfit hd c ha hb
  cases c with
  | eq => exact areEqual ha hb
  | ne => exact (areEqual ha hb).seq fun _ _ => pure trivial
  | isIn => exact isIn (hc _ (.head _)) ha hb
  | notIn => exact (isIn (hc _ (.head _)) ha hb).seq fun _ _ => pure trivial
  | _ => exact hordered (hc _ (.head _))

/-! ### Items of items -/

/-- All items of a sound item, if it is reckoned with that there are none to be had. -/
theorem takeAll (hunfit : E.has .unfit) (h : item.IsSound E σ) :
    Looks E σ (fun items => AreSound E σ items) (takeAll item) := by
  refine heap.seq fun cells hd => ?_
  refine (lift (Item.contents_gives hunfit hd h)).seq fun r hr => ?_
  obtain ⟨items, failure⟩ := r
  obtain ⟨hitems, rfl : failure = none⟩ := hr
  have hrest : Looks E σ (fun items => AreSound E σ items)
      (Pure.pure items : Work (List Item)) := pure hitems
  dsimp only
  split
  · refine (cellAt_ref h).seq fun c hc => ?_
    split
    · exact absurd hc Cell.not_isReferred_stream
    · exact hrest
  · exact hrest

theorem takeLazily (hunfit : E.has .unfit) (h : item.IsSound E σ) :
    Looks E σ (fun r => AreSound E σ r.1 ∧ r.2 = none) (takeLazily item) := by
  refine heap.seq fun cells hd => ?_
  refine (lift (Item.contents_gives hunfit hd h)).seq fun r hr => ?_
  have hrest : Looks E σ (fun r => AreSound E σ r.1 ∧ r.2 = none)
      (Pure.pure r : Work (List Item × Option Fault)) := pure hr
  dsimp only
  split
  · refine (cellAt_ref h).seq fun c hc => ?_
    split
    · exact absurd hc Cell.not_isReferred_stream
    · exact hrest
  · exact hrest

theorem takeFirst (hunfit : E.has .unfit) (h : item.IsSound E σ) :
    Looks E σ (Item.IsSoundIfAny E σ) (takeFirst item) := by
  refine heap.seq fun cells hd => ?_
  refine (lift (Item.contents_gives hunfit hd h)).seq fun r hr => ?_
  obtain ⟨items, failure⟩ := r
  obtain ⟨hitems, rfl : failure = none⟩ := hr
  cases items with
  | nil => exact pure .none
  | cons first rest =>
    have hfirst : Looks E σ (Item.IsSoundIfAny E σ) (Pure.pure (some first)) :=
      pure (.some (List.forall_mem_cons.mp hitems).1)
    dsimp only
    split
    · refine (cellAt_ref h).seq fun c hc => ?_
      split
      · exact absurd hc Cell.not_isReferred_stream
      · exact hfirst
    · exact hfirst

theorem backwards (hunfit : E.has .unfit) (h : item.IsSound E σ) :
    Looks E σ (fun items => AreSound E σ items) (Apply.backwards item) := by
  have hcontents : Looks E σ (fun items => AreSound E σ items)
      (do return (← Template.lift (item.contents (← Template.heap))).1.reverse) :=
    (heap_lift fun _ hd => Item.contents_gives hunfit hd h).seq fun _ hr =>
      pure fun i hi => hr.1 i (List.mem_reverse.mp hi)
  rw [Apply.backwards.eq_def]
  split
  · refine (cellAt_ref h).seq fun c hc => ?_
    exact Abides.guard hunfit fun _ => hcontents
  · exact hcontents

/-! ### Texts of items -/

theorem writtenText (h : item.IsSound E σ) : Looks E σ (fun _ => True) (writtenText item) :=
  heap_lift fun _ hd => Item.written_fails hd h

theorem softText (h : item.IsSound E σ) : Looks E σ (fun _ => True) (Apply.softText item) := by
  rw [Apply.softText.eq_def]
  split
  · exact pure trivial
  · exact (writtenText h).seq fun _ _ => pure trivial

theorem isMarkup (h : item.IsSound E σ) : Looks E σ (fun _ => True) (Apply.isMarkup item) := by
  rw [Apply.isMarkup.eq_def]
  split
  · exact pure trivial
  · exact (cellAt_ref h).seq fun _ _ => pure trivial
  · exact pure trivial

/-! ### Members -/

theorem member? (h : item.IsSound E σ) (name : Text) :
    Looks E σ (Item.IsSoundIfAny E σ) (Item.member? item name) := by
  rw [Item.member?]
  split
  · split
    · exact pure .none
    · exact Abides.throw E.undefined
  · refine heap.seq fun cells hd => ?_
    have hproperty := Item.property?_sound hd h name
    split
    · next m hm =>
      rw [hm] at hproperty
      exact pure hproperty
    · split
      · exact pure (.some (.method item name))
      · exact pure .none

theorem entry? (h : item.IsSound E σ) (hkey : key.IsSound E σ) :
    Looks E σ (Item.IsSoundIfAny E σ) ( Item.entry? item key) := by
  rw [ Item.entry?.eq_def]
  split
  · cases h with | self name hcontext =>
    refine (cellAt hcontext).seq fun c _ => ?_
    split
    · split
      · exact pure (.some (.block ..))
      · exact pure .none
    · exact pure .none
  · exact heap_lift fun cells hd => Item.at?_gives hd h hkey

theorem dotted (strict : Bool) (h : item.IsSound E σ) (name : Text) :
    Looks E σ (fun i => i.IsSound E σ) (Item.dotted strict item name) := by
  refine (member? h name).seq fun found hfound => ?_
  split
  · exact pure (hfound _ rfl)
  · refine ( entry? h (.text false name)).seq fun found hfound => pure ?_
    cases found with
    | none => exact .undefined strict
    | some i => exact hfound i rfl

theorem indexed (strict : Bool) (h : item.IsSound E σ) (hkey : key.IsSound E σ) :
    Looks E σ (fun i => i.IsSound E σ) (Item.indexed strict item key) := by
  refine ( entry? h hkey).seq fun found hfound => ?_
  split
  · exact pure (hfound _ rfl)
  · split
    · next name =>
      refine (member? h name).seq fun found hfound => pure ?_
      cases found with
      | none => exact .undefined strict
      | some i => exact hfound i rfl
    · exact pure (.undefined strict)

end Looks

/-! ### Operators -/

namespace Item

variable {α : Type}

theorem mem_of_mem_pick {x : α} {xs : List α} {indices : List Nat} (h : x ∈ pick xs indices) :
    x ∈ xs := by
  obtain ⟨i, -, hi⟩ := List.mem_filterMap.mp h
  rw [List.getElem?_toArray] at hi
  exact List.mem_of_getElem? hi

theorem mem_of_mem_repeated {x : α} {xs : List α} {n : Int} (h : x ∈ repeated n xs) : x ∈ xs := by
  obtain ⟨ys, hys, hx⟩ := List.mem_flatten.mp h
  rwa [List.eq_of_mem_replicate hys] at hx

/-- Where long numbers are reckoned with, every number is sound. -/
theorem isSound_of_isNumber (hlong : E.has .badValue) (h : item.isNumber = true) :
    item.IsSound E σ := by
  cases item with
  | bool b => exact .bool b
  | int n => exact .int fun _ _ _ => hlong
  | float x => exact .float x
  | _ => cases h

/-- An operation whose answer is a number, where there is one. -/
abbrev GivesNumber (E : Reckoning) (r : Except Fault Item) : Prop :=
  Gives (fun i => i.isNumber = true) E.has r

theorem toReal_fails (hlarge : E.has .tooLarge) (x : Number) : FailsAs E.has x.toReal := by
  cases x with
  | real x => trivial
  | whole n =>
    rw [Number.toReal, wholeToReal]
    split
    · trivial
    · exact hlarge

theorem onNumbers_gives {onWhole : Int → Int → Except Fault Item}
    {onReal : Float → Float → Except Fault Item} (hlarge : E.has .tooLarge)
    (hwhole : ∀ m n, GivesNumber E (onWhole m n)) (hreal : ∀ x y, GivesNumber E (onReal x y))
    (x y : Number) : GivesNumber E (onNumbers onWhole onReal x y) := by
  rw [onNumbers.eq_def]
  split
  · exact hwhole _ _
  · exact (toReal_fails hlarge x).bind fun _ _ => (toReal_fails hlarge y).bind fun _ _ => hreal _ _

theorem isNumber_negNumber (x : Number) : (negNumber x).isNumber = true := by cases x <;> rfl

theorem isNumber_posNumber (x : Number) : (posNumber x).isNumber = true := by cases x <;> rfl

theorem addNumbers_gives (hlarge : E.has .tooLarge) (x y : Number) :
    GivesNumber E (addNumbers x y) := by
  refine onNumbers_gives hlarge (fun m n => ?_) (fun x y => ?_) x y <;> rfl

theorem subNumbers_gives (hlarge : E.has .tooLarge) (x y : Number) :
    GivesNumber E (subNumbers x y) := by
  refine onNumbers_gives hlarge (fun m n => ?_) (fun x y => ?_) x y <;> rfl

theorem mulNumbers_gives (hlarge : E.has .tooLarge) (x y : Number) :
    GivesNumber E (mulNumbers x y) := by
  refine onNumbers_gives hlarge (fun m n => ?_) (fun x y => ?_) x y <;> rfl

theorem divNumbers_gives (hlarge : E.has .tooLarge) (hzero : E.has .divisionByZero) (x y : Number) :
    GivesNumber E (divNumbers x y) := by
  refine onNumbers_gives hlarge (fun m n => ?_) (fun x y => ?_) x y
  · rw [divWhole]
    split
    · exact hzero
    · split
      · rfl
      · exact hlarge
  · split
    · exact hzero
    · rfl

theorem floorDivNumbers_gives (hlarge : E.has .tooLarge) (hzero : E.has .divisionByZero)
    (x y : Number) : GivesNumber E (floorDivNumbers x y) := by
  refine onNumbers_gives hlarge (fun m n => ?_) (fun x y => ?_) x y
  · split
    · exact hzero
    · rfl
  · split
    · exact hzero
    · rfl

theorem powReal_gives (hunfit : E.has .unfit) (hlarge : E.has .tooLarge)
    (hzero : E.has .divisionByZero) (x y : Float) : GivesNumber E (powReal x y) := by
  rw [powReal]
  split
  · exact hzero
  split
  · exact hunfit
  dsimp only
  split
  · exact hlarge
  · rfl

theorem powNumbers_gives (hunfit : E.has .unfit) (hlarge : E.has .tooLarge)
    (hzero : E.has .divisionByZero) (x y : Number) : GivesNumber E (powNumbers x y) := by
  have hreal := powReal_gives hunfit hlarge hzero
  refine onNumbers_gives hlarge (fun m n => ?_) hreal x y
  rw [powWhole]
  split
  · rfl
  · exact (toReal_fails hlarge (.whole m)).bind fun _ _ =>
      (toReal_fails hlarge (.whole n)).bind fun _ _ => hreal _ _

theorem sliceBounds_fails (hunfit : E.has .unfit) (hbad : E.has .badValue)
    (start stop step : Item) : FailsAs E.has (sliceBounds start stop step) := by
  have hbound (bound : Item) : FailsAs E.has (sliceBound bound) := by
    rw [sliceBound.eq_def]
    split
    · trivial
    · split
      · trivial
      · exact hunfit
  refine (hbound start).bind fun _ _ => (hbound stop).bind fun _ _ => ?_
  refine (hbound step).bind fun _ _ => ?_
  dsimp only
  split
  · exact hbad
  · trivial

end Item

namespace Abides

/-- A new list of sound items. -/
theorem newList (h : AreSound E σ items) :
    Abides E σ (fun τ i => i.IsSound E τ) (newList items) :=
  refTo (.list h)

theorem newMap {es : List (Item × Item)} (h : AreEntries E σ es) :
    Abides E σ (fun τ i => i.IsSound E τ) (newMap es) :=
  refTo (.map h)

theorem filterM {p : Item → Work Bool}
    (h : ∀ x ∈ items, ∀ τ, σ.Grows τ → Abides E τ (fun _ _ => True) (p x)) :
    Abides E σ (fun _ kept => ∀ i ∈ kept, i ∈ items) (items.filterM p) := by
  have haux (xs acc : List Item) (hxs : ∀ x ∈ xs, x ∈ items) {τ : Shapes} (hτ : σ.Grows τ) :
      Abides E τ (fun _ kept => ∀ i ∈ kept, i ∈ items ∨ i ∈ acc) (List.filterAuxM p xs acc) := by
    induction xs generalizing acc τ with
    | nil => exact pure fun i hi => .inr hi
    | cons x xs ih =>
      rw [List.forall_mem_cons] at hxs
      refine (h x hxs.1 τ hτ).bind fun υ isKept hυ _ => ?_
      refine (ih _ hxs.2 (hτ.trans hυ)).mono fun _ kept _ hkept i hi => ?_
      cases isKept with
      | false => exact hkept i hi
      | true =>
        rcases hkept i hi with hmem | hmem
        · exact .inl hmem
        · rcases List.mem_cons.mp hmem with rfl | hmem
          · exact .inl hxs.1
          · exact .inr hmem
  refine (haux items [] (fun _ hx => hx) (.refl σ)).bind fun _ kept _ hkept => pure fun i hi => ?_
  exact (hkept i (List.mem_reverse.mp hi)).resolve_right List.not_mem_nil

/-- A part of a sound item. -/
theorem slice {start stop step : Item} (hunfit : E.has .unfit) (hbad : E.has .badValue)
    (h : item.IsSound E σ) :
    Abides E σ (fun τ i => i.IsSound E τ) (Item.slice item start stop step) := by
  have hbounds := Looks.lift (σ := σ) (Item.sliceBounds_fails hunfit hbad start stop step)
  cases item with
  | undefined strict => exact throw E.undefined
  | text safe s => exact hbounds.seq fun _ _ => pure (.text safe _)
  | bytes b => exact hbounds.seq fun _ _ => pure (.bytes _)
  | tuple isGroup items =>
    cases h with | tuple _ h =>
    exact hbounds.seq fun _ _ => pure (.tuple false fun i hi => h i (Item.mem_of_mem_pick hi))
  | range => cases h
  | ref address =>
    rw [Item.slice]
    refine (Looks.cellAt_ref h).seq fun c hc => ?_
    split
    · exact hbounds.seq fun _ _ => newList fun i hi => hc.list i (Item.mem_of_mem_pick hi)
    · exact throw hunfit
  | _ => exact throw hunfit

theorem repeatItem (hunfit : E.has .unfit) (h : item.IsSound E σ) (n : Int) :
    Abides E σ (fun τ i => i.IsSound E τ) (Item.repeatItem item n) := by
  cases item with
  | text safe s => exact pure (.text safe _)
  | bytes b => exact pure (.bytes _)
  | tuple isGroup items =>
    cases h with | tuple _ h =>
    exact pure (.tuple false fun i hi => h i (Item.mem_of_mem_repeated hi))
  | ref address =>
    rw [Item.repeatItem]
    refine (Looks.cellAt_ref h).seq fun c hc => ?_
    split
    · exact newList fun i hi => hc.list i (Item.mem_of_mem_repeated hi)
    · exact throw hunfit
  | _ => exact throw hunfit

theorem onTwo {f : Item.Number → Item.Number → Except Fault Item} (hunfit : E.has .unfit)
    (hlong : E.has .badValue) (hf : ∀ x y, Item.GivesNumber E (f x y)) :
    Abides E σ (fun τ i => i.IsSound E τ) (Item.onTwo f a b) := by
  rw [Item.onTwo]
  split
  · exact (Looks.lift (hf _ _)).abides fun i hi => Item.isSound_of_isNumber hlong hi
  · exact throw hunfit

theorem add (h : E.hasAll Binary.add.risks) (ha : a.IsSound E σ) (hb : b.IsSound E σ) :
    Abides E σ (fun τ i => i.IsSound E τ) (Item.add a b) := by
  obtain ⟨hunfit, hlong, hlarge⟩ : E.has .unfit ∧ E.has .badValue ∧ E.has .tooLarge := by
    simpa [Reckoning.hasAll, Binary.risks] using h
  rw [Item.add.eq_def]
  split
  · rw [Item.addTexts]
    split
    · exact pure (.text ..)
    · exact pure (.text ..)
  · exact pure (.bytes _)
  · cases ha with | tuple _ ha =>
    cases hb with | tuple _ hb =>
    exact pure (.tuple false (List.forall_mem_append.mpr ⟨ha, hb⟩))
  · refine (Looks.cellAt_ref ha).seq fun c hc => (Looks.cellAt_ref hb).seq fun d hd => ?_
    split
    · exact newList (List.forall_mem_append.mpr ⟨hc.list, hd.list⟩)
    · exact throw hunfit
  · exact onTwo hunfit hlong (Item.addNumbers_gives hlarge)

theorem sub (h : E.hasAll Binary.sub.risks) (ha : a.IsSound E σ) (hb : b.IsSound E σ) :
    Abides E σ (fun τ i => i.IsSound E τ) (Item.sub a b) := by
  obtain ⟨hunfit, hlong, hlarge⟩ : E.has .unfit ∧ E.has .badValue ∧ E.has .tooLarge := by
    simpa [Reckoning.hasAll, Binary.risks] using h
  rw [Item.sub.eq_def]
  split
  · refine (Looks.cellAt_ref ha).seq fun c hc => (Looks.cellAt_ref hb).seq fun d hd => ?_
    split
    · refine Looks.heap.seq fun cells hcells => ?_
      refine (filterM fun i hi τ hτ => ?_).bind fun τ kept hτ hkept => ?_
      · have hequal : ∀ j ∈ _, FailsAs E.has (Item.equal cells j i) :=
          fun j hj => Item.equal_fails hcells (hd.set j hj) (hc.set i hi)
        exact (Looks.lift (Item.isAmong_fails hequal)).seq fun _ _ => pure trivial
      · exact refTo (.set fun i hi => (hc.set i (hkept i hi)).grows hτ)
    · exact throw hunfit
  · exact onTwo hunfit hlong (Item.subNumbers_gives hlarge)

theorem mul (h : E.hasAll Binary.mul.risks) (ha : a.IsSound E σ) (hb : b.IsSound E σ) :
    Abides E σ (fun τ i => i.IsSound E τ) (Item.mul a b) := by
  obtain ⟨hunfit, hlong, hlarge⟩ : E.has .unfit ∧ E.has .badValue ∧ E.has .tooLarge := by
    simpa [Reckoning.hasAll, Binary.risks] using h
  rw [Item.mul]
  split
  · exact (Looks.lift (Item.mulNumbers_gives hlarge _ _)).abides
      fun i hi => Item.isSound_of_isNumber hlong hi
  · exact repeatItem hunfit ha _
  · exact repeatItem hunfit hb _
  · exact throw hunfit

/-- **Operators** come to nothing but what they risk. -/
theorem operate {op : Binary} (h : E.hasAll op.risks) (hmod : op ≠ .mod) (ha : a.IsSound E σ)
    (hb : b.IsSound E σ) : Abides E σ (fun τ i => i.IsSound E τ) (Item.operate op a b) := by
  rw [Item.operate.eq_def]
  refine guard E.undefined fun _ => ?_
  cases op with
  | add => exact add h ha hb
  | sub => exact sub h ha hb
  | mul => exact mul h ha hb
  | mod => exact absurd rfl hmod
  | div | floorDiv | pow =>
    obtain ⟨hunfit, hlong, hlarge, hzero⟩ :
        E.has .unfit ∧ E.has .badValue ∧ E.has .tooLarge ∧ E.has .divisionByZero := by
      simpa [Reckoning.hasAll, Binary.risks] using h
    first
      | exact onTwo hunfit hlong (Item.divNumbers_gives hlarge hzero)
      | exact onTwo hunfit hlong (Item.floorDivNumbers_gives hlarge hzero)
      | exact onTwo hunfit hlong (Item.powNumbers_gives hunfit hlarge hzero)

theorem operateOn {op : Unary} (h : E.hasAll op.risks) (ha : a.IsSound E σ) :
    Abides E σ (fun τ i => i.IsSound E τ) (Item.operateOn op a) := by
  cases op with
  | not => exact (Looks.isTrue ha).seq fun _ _ => pure (.bool _)
  | plus | minus =>
    obtain ⟨hunfit, hlong⟩ : E.has .unfit ∧ E.has .badValue := by
      simpa [Reckoning.hasAll, Unary.risks] using h
    rw [Item.operateOn]
    split
    · refine pure (Item.isSound_of_isNumber hlong ?_)
      first | exact Item.isNumber_posNumber _ | exact Item.isNumber_negNumber _
    · refine throw ?_
      split
      · exact E.undefined
      · exact hunfit

end Abides

theorem Looks.joinTexts (escapes : Bool) (h : AreSound E σ items) :
    Looks E σ (fun i => i.IsSound E σ) (Item.joinTexts escapes items) := by
  refine heap.seq fun cells hd => ?_
  split
  · refine (Looks.mapM fun i hi => lift (Item.escapedText_fails hd (h i hi))).seq fun _ _ => ?_
    exact pure (.text ..)
  · refine (Looks.mapM fun i hi => lift (Item.written_fails hd (h i hi))).seq fun _ _ => ?_
    exact pure (.text ..)

end Template

end Scaffold
