import Scaffold.Proofs.Template.Missing.Step
import Scaffold.Template.Filter.Run

/-!
# What is done with items finds every template

Numbers, comparisons, texts and their places and fields, and members of texts, days and times come
to faults of many kinds. That of a template that is missing is none of them: items do not look
templates up.
-/

namespace Scaffold

namespace Template

namespace NeverMissing

open Item

variable {α : Type} {cells : Array Cell}

/-! ### What a call is given -/

@[grind ←] theorem sortedOut (ps : List Parameter) (items : List Item)
    (named : List (Text × Item)) : NeverMissing (Given.sortedOut ps items named) := by
  fun_induction Given.sortedOut <;> grind

@[grind ←] theorem forParameters (g : Given) (ps : List Parameter) :
    NeverMissing (g.forParameters ps) := sortedOut ps _ _

@[grind ←] theorem onlyByPosition (g : Given) (ps : List Parameter) :
    NeverMissing (g.onlyByPosition ps) := by
  grind [Given.onlyByPosition]

/-! ### Numbers -/

@[grind ←] theorem wholeToReal (n : Int) : NeverMissing (wholeToReal n) := by
  grind [Item.wholeToReal]

@[grind ←] theorem toReal (x : Number) : NeverMissing x.toReal := by
  fun_cases Number.toReal <;> grind

@[grind ←] theorem onNumbers {onWhole : Int → Int → Except Fault Item}
    {onReal : Float → Float → Except Fault Item} {x y : Number}
    (hwhole : ∀ m n, NeverMissing (onWhole m n)) (hreal : ∀ x y, NeverMissing (onReal x y)) :
    NeverMissing (onNumbers onWhole onReal x y) := by
  fun_cases Item.onNumbers <;> grind

@[grind ←] theorem addNumbers (x y : Number) : NeverMissing (addNumbers x y) :=
  onNumbers (fun _ _ => ok _) fun _ _ => ok _

@[grind ←] theorem subNumbers (x y : Number) : NeverMissing (subNumbers x y) :=
  onNumbers (fun _ _ => ok _) fun _ _ => ok _

@[grind ←] theorem mulNumbers (x y : Number) : NeverMissing (mulNumbers x y) :=
  onNumbers (fun _ _ => ok _) fun _ _ => ok _

@[grind ←] theorem divNumbers (x y : Number) : NeverMissing (divNumbers x y) := by
  refine onNumbers (fun m n => ?_) fun x y => ?_
  · fun_cases divWhole <;> grind
  · grind

@[grind ←] theorem floorDivNumbers (x y : Number) : NeverMissing (floorDivNumbers x y) := by
  refine onNumbers (fun m n => ?_) fun x y => ?_ <;> grind

@[grind ←] theorem modNumbers (x y : Number) : NeverMissing (modNumbers x y) := by
  refine onNumbers (fun m n => ?_) fun x y => ?_ <;> grind

@[grind ←] theorem powReal (x y : Float) : NeverMissing (powReal x y) := by
  grind [Item.powReal]

@[grind ←] theorem powNumbers (x y : Number) : NeverMissing (powNumbers x y) := by
  refine onNumbers (fun m n => ?_) powReal
  fun_cases powWhole <;> grind

@[grind ←] theorem truncate (x : Float) : NeverMissing (truncate x) := by
  grind [Item.truncate]

@[grind ←] theorem roundNumber (places : Int) (x : Number) :
    NeverMissing (roundNumber places x) := by
  fun_cases Item.roundNumber <;> grind

/-! ### Comparisons -/

@[grind ←] theorem truth (item : Item) : NeverMissing (item.truth cells) := by
  fun_cases Item.truth <;> grind

section Compared

variable {equal ordered : Item → Item → Except Fault Bool}

@[grind ←] theorem allEqual (as bs : List Item) (h : ∀ a b, NeverMissing (equal a b)) :
    NeverMissing (allEqual equal as bs) := by
  fun_induction Item.allEqual <;> grind

@[grind ←] theorem isAmong (item : Item) (items : List Item)
    (h : ∀ a b, NeverMissing (equal a b)) : NeverMissing (isAmong equal item items) := by
  fun_induction Item.isAmong <;> grind

@[grind ←] theorem lookup? (key : Item) (es : List (Item × Item))
    (h : ∀ a b, NeverMissing (equal a b)) : NeverMissing (lookup? equal key es) := by
  fun_induction Item.lookup? <;> grind

@[grind ←] theorem orderedItems (c : Comparison) (as bs : List Item)
    (h : ∀ a b, NeverMissing (equal a b)) (h' : ∀ a b, NeverMissing (ordered a b)) :
    NeverMissing (orderedItems equal ordered c as bs) := by
  fun_induction Item.orderedItems <;> grind

@[grind ←] theorem insertSorted (key item : Item) (pairs : List (Item × Item))
    (h : ∀ a b, NeverMissing (ordered a b)) :
    NeverMissing (insertSorted ordered key item pairs) := by
  fun_induction Item.insertSorted <;> grind

@[grind ←] theorem sorted (pairs : List (Item × Item)) (h : ∀ a b, NeverMissing (ordered a b)) :
    NeverMissing (sorted ordered pairs) := by
  grind [Item.sorted]

@[grind ←] theorem sortedDown (pairs : List (Item × Item))
    (h : ∀ a b, NeverMissing (ordered a b)) : NeverMissing (sortedDown ordered pairs) := by
  grind [Item.sortedDown]

end Compared

@[grind ←] theorem equalWithin (fuel : Nat) (a b : Item) :
    NeverMissing (equalWithin cells fuel a b) := by
  fun_induction Item.equalWithin <;> grind

@[grind ←] theorem equal (a b : Item) : NeverMissing (equal cells a b) := equalWithin _ a b

@[grind ←] theorem orderedWithin (c : Comparison) (fuel : Nat) (a b : Item) :
    NeverMissing (orderedWithin cells c fuel a b) := by
  fun_induction Item.orderedWithin <;> grind

@[grind ←] theorem ordered (c : Comparison) (a b : Item) : NeverMissing (ordered cells c a b) :=
  orderedWithin c _ a b

mutual

theorem checkKey (item : Item) : NeverMissing (checkKey cells item) := by
  cases item with
  | tuple g items => exact checkAll items
  | _ => grind [Item.checkKey]

theorem checkAll (items : List Item) : NeverMissing (checkKey.checkAll cells items) := by
  cases items with
  | nil => exact ok ()
  | cons i is => exact (checkKey i).bind fun _ => checkAll is

end

attribute [grind ←] checkKey

/-! ### Items as text -/

@[grind ←] theorem intText (n : Int) : NeverMissing (intText n) := by
  grind [Item.intText]

@[grind ←] theorem shownIn (fuel : Nat) (above : List Address) (item : Item) :
    NeverMissing (shownIn cells fuel above item) := by
  fun_induction Item.shownIn <;> grind

@[grind ←] theorem shown (item : Item) : NeverMissing (item.shown cells) := shownIn _ [] item

@[grind ←] theorem written (item : Item) : NeverMissing (item.written cells) := by
  fun_cases Item.written <;> grind

@[grind ←] theorem escapedText (item : Item) : NeverMissing (item.escapedText cells) := by
  fun_cases Item.escapedText <;> grind

@[grind ←] theorem foldedParts {part : Nat → α → Except Fault Text} (indent following : Nat)
    (xs : List α) (h : ∀ n x, NeverMissing (part n x)) :
    NeverMissing (foldedParts indent following part xs) := by
  fun_induction Item.foldedParts <;> grind

@[grind ←] theorem foldedIn (fuel : Nat) (isWhole : Bool) (indent following : Nat) (item : Item) :
    NeverMissing (foldedIn cells fuel isWhole indent following item) := by
  induction fuel generalizing isWhole indent following item with
  | zero => exact error (by decide)
  | succ fuel ih =>
    rw [Item.foldedIn]
    have hparts (closing : Nat) (items : List Item) : NeverMissing
        (Item.foldedParts (indent + 1) (following + closing)
          (Item.foldedIn cells fuel false (indent + 1)) items) :=
      foldedParts _ _ items fun n x => ih _ _ n x
    refine (shown item).bind fun s => ?_
    split
    · exact pure _
    dsimp only
    split
    · exact pure _
    · exact (hparts _ _).bind fun _ => pure _
    · split
      · exact (hparts _ _).bind fun _ => pure _
      · refine (foldedParts _ _ _ fun n e => ?_).bind fun _ => pure _
        exact (shown e.1).bind fun key => (ih _ _ n e.2).bind fun _ => pure _
      · exact pure _
    · exact pure _

@[grind ←] theorem folded (item : Item) : NeverMissing (item.folded cells) :=
  foldedIn _ true 0 0 item

/-! ### Items with items in them -/

@[grind ←] theorem contents (item : Item) : NeverMissing (item.contents cells) := by
  fun_cases Item.contents <;> grind

@[grind ←] theorem count (item : Item) : NeverMissing (item.count cells) := by
  fun_cases Item.count <;> grind

@[grind ←] theorem sliceBound (item : Item) : NeverMissing (sliceBound item) := by
  fun_cases Item.sliceBound <;> grind

@[grind ←] theorem sliceBounds (start stop step : Item) :
    NeverMissing (sliceBounds start stop step) := by
  grind [Item.sliceBounds]

@[grind ←] theorem at? (item key : Item) : NeverMissing (item.at? cells key) := by
  fun_cases Item.at? <;> grind

@[grind ←] theorem isInside (item whole : Item) : NeverMissing (item.isInside cells whole) := by
  fun_cases Item.isInside <;> grind

@[grind ←] theorem leftBehind {equal : Item → Item → Except Fault Bool} (item : Item)
    (items : List Item) (h : ∀ a b, NeverMissing (equal a b)) :
    NeverMissing (leftBehind equal item items) := by
  fun_induction Template.leftBehind <;> grind

/-! ### Texts with places -/

@[grind ←] theorem next (supply : Percent.Supply) : NeverMissing supply.next := by
  fun_cases Percent.Supply.next <;> grind

@[grind ←] theorem numeral (supply : Percent.Supply) (s : Text) :
    NeverMissing (Percent.numeral supply s) := by
  fun_cases Percent.numeral <;> grind

@[grind ←] theorem wholeFor (letter : Char) (item : Item) :
    NeverMissing (Percent.wholeFor letter item) := by
  fun_cases Percent.wholeFor <;> grind

@[grind ←] theorem realText (o : Percent.Options) (form : Decimal.Form) (upper : Bool)
    (item : Item) : NeverMissing (Percent.realText o form upper item) := by
  grind [Percent.realText]

@[grind ←] theorem convert (o : Percent.Options) (letter : Char) (item : Item) :
    NeverMissing (Percent.convert cells o letter item) := by
  fun_cases Percent.convert <;> grind

@[grind ←] theorem place (supply : Percent.Supply) (s : Text) :
    NeverMissing (Percent.place cells supply s) := by
  unfold Percent.place
  extract_lets rest
  have hrest (x : Percent.Supply × Text) : NeverMissing (rest x) := by
    refine (numeral _ _).bind fun width => ?_
    dsimp only
    split <;> grind
  clear_value rest
  split
  · split
    · exact (throw (by decide)).bind hrest
    split
    · exact (throw (by decide)).bind hrest
    refine (at? _ _).bind fun found => ?_
    split
    · exact (pure _).bind hrest
    · exact (throw (by grind)).bind hrest
  · exact (pure _).bind hrest

@[grind ←] theorem fill (fuel : Nat) (supply : Percent.Supply) (s : Text) :
    NeverMissing (Percent.fill cells fuel supply s) := by
  fun_induction Percent.fill <;> grind

@[grind ←] theorem percent (s : Text) (item : Item) : NeverMissing (percent cells s item) := by
  unfold Item.percent
  refine (fill _ _ s).bind fun x => ?_
  grind

@[grind ←] theorem escapedItem (item : Item) : NeverMissing (escapedItem cells item) := by
  fun_cases Item.escapedItem <;> grind

/-! ### Texts with fields -/

@[grind ←] theorem read (s : Text) : NeverMissing (Format.Spec.read s) := by
  unfold Format.Spec.read
  grind

@[grind ←] theorem ofText (spec : Format.Spec) (s : Text) :
    NeverMissing (Format.ofText spec s) := by
  grind [Format.ofText]

@[grind ←] theorem ofReal (spec : Format.Spec) (x : Float) :
    NeverMissing (Format.ofReal spec x) := by
  grind [Format.ofReal]

@[grind ←] theorem ofWhole (spec : Format.Spec) (n : Int) :
    NeverMissing (Format.ofWhole spec n) := by
  grind [Format.ofWhole]

@[grind ←] theorem ofItem (item : Item) (spec : Text) :
    NeverMissing (Format.ofItem cells item spec) := by
  fun_cases Format.ofItem <;> grind

@[grind ←] theorem firstItem (g : Given) (counting : Format.Counting) (name : Text) :
    NeverMissing (Format.firstItem g counting name) := by
  unfold Format.firstItem
  extract_lets itemAt
  have hitem (n : Nat) (counting : Format.Counting) : NeverMissing (itemAt n counting) := by
    grind
  clear_value itemAt
  grind

@[grind ←] theorem follow (fuel : Nat) (item : Item) (s : Text) :
    NeverMissing (Format.follow cells fuel item s) := by
  fun_induction Format.follow
  case case5 f hf => exact error (ne (at? _ _) hf)
  all_goals grind

@[grind ←] theorem converted (conversion : Option Char) (item : Item) :
    NeverMissing (Format.converted cells conversion item) := by
  fun_cases Format.converted <;> grind

@[grind ←] theorem splitField (s : Text) : NeverMissing (Format.splitField s) := by
  fun_cases Format.splitField <;> grind

@[grind ←] theorem fillFields (escapes : Bool) (g : Given) (fuel : Nat)
    (counting : Format.Counting) (s : Text) :
    NeverMissing (Format.fill cells escapes g fuel counting s) := by
  fun_induction Format.fill
  case case7 =>
    refine (splitField _).bind fun parts => (firstItem _ _ _).bind fun first => ?_
    refine (follow _ _ _).bind fun found => (converted _ _).bind fun item => ?_
    grind
  all_goals grind

@[grind ←] theorem format (escapes : Bool) (s : Text) (g : Given) :
    NeverMissing (format cells escapes s g) :=
  map (fillFields escapes g _ _ s)

/-! ### Members of texts -/

@[grind ←] theorem textOf (safe : Bool) (item : Item) :
    NeverMissing (TextMethod.textOf safe item) := by
  fun_cases TextMethod.textOf <;> grind

@[grind ←] theorem wholeOf (item : Item) : NeverMissing (TextMethod.wholeOf item) := by
  fun_cases TextMethod.wholeOf <;> grind

@[grind ←] theorem fillerOf (item : Item) : NeverMissing (TextMethod.fillerOf item) := by
  fun_cases TextMethod.fillerOf <;> grind

@[grind ←] theorem window (s : Text) (start stop : Item) :
    NeverMissing (TextMethod.window s start stop) := by
  grind [TextMethod.window]

@[grind ←] theorem stripTest (item : Item) : NeverMissing (TextMethod.stripTest item) := by
  fun_cases TextMethod.stripTest <;> grind

@[grind ←] theorem endings (item : Item) : NeverMissing (TextMethod.endings item) := by
  fun_cases TextMethod.endings <;> grind

/-- One of several answers, where each is chosen under a condition. -/
theorem of_mem_ite {c : Prop} [Decidable c] {a : Except Fault α} {rest : Option (Except Fault α)}
    (ha : NeverMissing a) (hrest : ∀ r ∈ rest, NeverMissing r) :
    ∀ r ∈ if c then some a else rest, NeverMissing r := by
  split
  · rintro r ⟨⟩
    exact ha
  · exact hrest

theorem search? (name s : Text) (g : Given) :
    ∀ answer ∈ TextMethod.search? name s g, NeverMissing answer := by
  unfold TextMethod.search?
  extract_lets is find atEnd
  have hfind (last : Bool) (absent : Except Fault Item) (habsent : NeverMissing absent) :
      NeverMissing (find last absent) := by
    refine (onlyByPosition g _).bind fun given => ?_
    grind
  have hend (test : Text → Text → Bool) : NeverMissing (atEnd test) := by
    grind
  clear_value is find atEnd
  repeat' apply of_mem_ite
  all_goals grind

theorem edited? (safe : Bool) (name s : Text) (g : Given) :
    ∀ answer ∈ TextMethod.edited? safe name s g, NeverMissing answer := by
  unfold TextMethod.edited?
  extract_lets is strip align
  have hstrip (atStart atLast : Bool) : NeverMissing (strip atStart atLast) := by
    grind
  have halign (f : Int → Char → Text → Text) : NeverMissing (align f) := by
    grind
  clear_value is strip align
  repeat' apply of_mem_ite
  all_goals grind

/-! ### Members of days and times -/

@[grind ←] theorem callDate (d : Calendar.Date) (t : Calendar.Moment) (name : Text) (g : Given) :
    NeverMissing (TimeMember.callDate d t name g) := by
  grind [TimeMember.callDate]

@[grind ←] theorem callMoment (t : Calendar.Moment) (name : Text) (g : Given) :
    NeverMissing (TimeMember.callMoment t name g) := by
  grind [TimeMember.callMoment]

end NeverMissing

end Template

end Scaffold
