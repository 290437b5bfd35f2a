import Scaffold.Proofs.Template.Missing.Member
import Scaffold.Template.Test

/-!
# Filters and tests find every template

Filters and tests are given items, and look no templates up. Several filters make a stream of what
they have come to, a fault included; it is one that the filter could have ended with.

## Main results

* `Template.FindsAll.run` — filters
* `Template.FindsAll.runTest` — tests
-/

namespace Scaffold

namespace Template

open Item Apply

variable {α : Type} {cells : Array Cell} {ok : List Stmt → Prop}

namespace NeverMissing

@[grind ←] theorem pathOf (item : Item) : NeverMissing (pathOf item) := by
  fun_cases Apply.pathOf <;> grind

@[grind ←] theorem groups (pairs : List (Item × Item)) : NeverMissing (groups cells pairs) := by
  fun_induction Apply.groups <;> grind

@[grind ←] theorem rows (size : Item) (row items : List Item) :
    NeverMissing (rows size cells row items) := by
  fun_induction Apply.rows <;> grind

@[grind ←] theorem elim (a : Option α) {f : Fault} (h : f ≠ .missingTemplate) :
    NeverMissing (a.elim (.error f) .ok) := by
  cases a with
  | none => exact h
  | some a => exact ok a

@[grind ←] theorem asReal (item : Item) : NeverMissing (asReal item) := by
  fun_cases Apply.asReal <;> grind

@[grind ←] theorem asWhole (item base : Item) : NeverMissing (asWhole item base) := by
  fun_cases Apply.asWhole <;> grind

@[grind ←] theorem roundedBy (round : Float → Option Int) (item : Item) :
    NeverMissing (roundedBy round item) := by
  fun_cases Apply.roundedBy <;> grind

@[grind ←] theorem roundCommon (item precision : Item) :
    NeverMissing (roundCommon item precision) := by
  fun_cases Apply.roundCommon <;> grind

@[grind ←] theorem memberName (key : Item) : NeverMissing (memberName key) := by
  fun_cases Apply.memberName <;> grind

@[grind ←] theorem documentOf (fuel : Nat) (above : List Address) (item : Item) :
    NeverMissing (documentOf cells fuel above item) := by
  induction fuel generalizing above item with
  | zero => exact error (by decide)
  | succ fuel ih =>
    unfold Apply.documentOf
    split
    case h_7 a =>
      extract_lets collection
      have hcollection (x : PUnit) : NeverMissing (collection x) := by
        dsimp only [collection]
        split
        · grind
        · refine (sorted _ (ordered _)).bind fun inOrder => ?_
          refine (mapM fun e => ?_).bind fun members => pure _
          grind
        · grind
      clear_value collection
      grind
    all_goals grind

@[grind ←] theorem wholeIfGiven (item : Item) : NeverMissing (wholeIfGiven item) := by
  fun_cases Apply.wholeIfGiven <;> grind

end NeverMissing

namespace FindsAll

@[grind ←] theorem forParameters_bind {g : Given} {ps : List Parameter} {k : List Item → Work α}
    (hk : ∀ items, FindsAll ok (k items)) :
    FindsAll ok (Template.lift (g.forParameters ps) >>= k) :=
  (lift (.forParameters g ps)).bind hk

/-! ### Keys -/

@[grind ←] theorem follow (set : Setting) (path : List Item) (default item : Item) :
    FindsAll ok (follow set path default item) := by
  refine foldlM fun item step => ?_
  grind

@[grind ←] theorem keyOfAttribute (attr keepsCase default : Item) :
    FindsAll ok (Key.ofAttribute attr keepsCase default) := by
  grind [Key.ofAttribute]

@[grind ←] theorem keyOf (k : Key) (set : Setting) (item : Item) :
    FindsAll ok (k.of set item) := by
  grind [Key.of]

@[grind ←] theorem keyOfAttributes (attributes keepsCase : Item) :
    FindsAll ok (Key.ofAttributes attributes keepsCase) := by
  fun_cases Key.ofAttributes <;> grind

@[grind ←] theorem softText (item : Item) : FindsAll ok (softText item) := by
  fun_cases Apply.softText <;> grind

@[grind ←] theorem isMarkup (item : Item) : FindsAll ok (isMarkup item) := by
  fun_cases Apply.isMarkup <;> grind

theorem streamed_go {f : Item → Work (List Item)} {failure : Option Fault} (items : List Item)
    (hf : ∀ i, FindsAll ok (f i)) (hfailure : failure ≠ some .missingTemplate) :
    Supplies ok EndWell NotMissing (streamed.go f failure items) := by
  induction items with
  | nil => exact Supplies.pure hfailure
  | cons i items ih =>
    rw [streamed.go]
    refine (Supplies.attempt (hf i)).bind fun made hmade => ?_
    cases made with
    | error fault => exact Supplies.pure fun h => hmade (Option.some.inj h)
    | ok made => exact ih.bind fun x hx => Supplies.pure hx

/-- Items are kept for later with no fault but one that they have come to. -/
@[grind ←] theorem streamed {items : Work (List Item × Option Fault)}
    {f : Item → Work (List Item)}
    (hitems : Supplies ok EndWell NotMissing items)
    (hf : ∀ i, FindsAll ok (f i)) : FindsAll ok (streamed items f) := by
  refine (Supplies.attempt hitems).bind fun r hr => ?_
  cases r with
  | error fault => exact refTo fun h => hr (Option.some.inj h)
  | ok found => exact (streamed_go found.1 hf hr).bind fun x hx => refTo hx

/-! ### Filters for collections -/

@[grind ←] theorem runCount (item : Item) (g : Given) : FindsAll ok (runCount item g) := by
  grind [Apply.runCount]

@[grind ←] theorem runFirst (set : Setting) (item : Item) (g : Given) :
    FindsAll ok (runFirst set item g) := by
  grind [Apply.runFirst]

@[grind ←] theorem backwards (item : Item) : FindsAll ok (backwards item) := by
  unfold Apply.backwards
  grind

@[grind ←] theorem runLast (set : Setting) (item : Item) (g : Given) :
    FindsAll ok (runLast set item g) := by
  grind [Apply.runLast]

@[grind ←] theorem runRandom (set : Setting) (item : Item) (g : Given) :
    FindsAll ok (runRandom set item g) := by
  refine forParameters_bind fun _ => heap_bind fun cells => (lift (.count item)).bind fun n => ?_
  grind

@[grind ←] theorem runReverse (item : Item) (g : Given) : FindsAll ok (runReverse item g) := by
  refine forParameters_bind fun _ => ?_
  split
  · exact pure _
  refine attempt_bind (backwards item) fun r hr => ?_
  split
  · exact newStream _
  · refine attempt_bind (takeAll item) fun r hr => ?_
    split
    · exact newList _
    · exact throw (by decide)
    · exact throw hr
  · exact throw hr

@[grind ←] theorem runList (item : Item) (g : Given) : FindsAll ok (runList item g) := by
  grind [Apply.runList]

@[grind ←] theorem runItems (item : Item) (g : Given) : FindsAll ok (runItems item g) := by
  refine forParameters_bind fun _ => streamed ?_ fun pair => pure _
  split
  · exact Supplies.pure nofun
  · refine (Supplies.cellAt _).bind fun c _ => ?_
    split
    · exact Supplies.pure nofun
    · exact Supplies.throw (by decide)
  · exact Supplies.throw (by decide)

@[grind ←] theorem runJoin (set : Setting) (item : Item) (g : Given) :
    FindsAll ok (runJoin set item g) := by
  refine forParameters_bind fun _ => ?_
  split
  · refine (lift (.pathOf _)).bind fun path => (takeAll item).bind fun items => ?_
    refine (mapM fun i => follow set path _ i).bind fun items => heap_bind fun cells => ?_
    have hplain : FindsAll ok (items.mapM Template.writtenText) := by
      grind
    have hsafe : FindsAll ok (items.mapM fun i => Template.lift (i.escapedText cells)) := by
      grind
    grind
  · exact throw (by decide)

@[grind ←] theorem sortedBy (keyed : List (Item × Item)) (reverse : Item) :
    FindsAll ok (sortedBy keyed reverse) := by
  grind [Apply.sortedBy]

@[grind ←] theorem runSort (set : Setting) (item : Item) (g : Given) :
    FindsAll ok (runSort set item g) := by
  refine forParameters_bind fun _ => ?_
  split
  · refine (keyOfAttributes _ _).bind fun keys => (takeAll item).bind fun items => ?_
    refine (mapM fun i => (mapM fun k => keyOf k set i).bind fun _ => pure _).bind fun keyed => ?_
    exact (sortedBy keyed _).bind fun found => newList _
  · exact throw (by decide)

@[grind ←] theorem runDictSort (item : Item) (g : Given) : FindsAll ok (runDictSort item g) := by
  refine forParameters_bind fun _ => ?_
  split
  · extract_lets sortBy
    have hby (byValue : Bool) : FindsAll ok (sortBy byValue) := by
      unfold sortBy
      extract_lets sortEntries
      have hentries (entries : List (Item × Item)) : FindsAll ok (sortEntries entries) := by
        refine (mapM fun e => ?_).bind fun keyed => (sortedBy _ _).bind fun found => newList _
        grind
      clear_value sortEntries
      grind
    clear_value sortBy
    grind
  · exact throw (by decide)

@[grind ←] theorem runExtreme (set : Setting) (c : Comparison) (item : Item) (g : Given) :
    FindsAll ok (runExtreme set c item g) := by
  refine forParameters_bind fun _ => ?_
  split
  · refine (takeAll item).bind fun items => (keyOfAttribute _ _ _).bind fun key => ?_
    split
    · exact pure _
    · refine (keyOf key set _).bind fun k => (foldlM fun best i => ?_).bind fun best => pure _
      grind
  · exact throw (by decide)

@[grind ←] theorem runGroupBy (set : Setting) (item : Item) (g : Given) :
    FindsAll ok (runGroupBy set item g) := by
  refine forParameters_bind fun _ => ?_
  split
  · refine (keyOfAttribute _ _ _).bind fun key => (takeAll item).bind fun items => ?_
    refine (mapM fun i => (keyOf key set i).bind fun _ => pure _).bind fun keyed => ?_
    refine heap_bind fun cells => (sortedBy _ _).bind fun inOrder => ?_
    refine (lift (.groups _)).bind fun found => (mapM fun group => ?_).bind fun members => newList _
    grind
  · exact throw (by decide)

@[grind ←] theorem runUnique (set : Setting) (item : Item) (g : Given) :
    FindsAll ok (runUnique set item g) := by
  refine forParameters_bind fun _ => ?_
  split
  · refine (allocate (c := .list []) trivial).bind fun seen => ?_
    refine streamed (takeLazily item) fun i => ?_
    refine (keyOfAttribute _ _ _).bind fun key => (keyOf key set i).bind fun k => ?_
    refine heap_bind fun cells => (lift (.checkKey k)).bind fun _ => cellAt_bind fun c hc => ?_
    split
    · refine (lift (.isAmong _ _ .equal)).bind fun isSeen => ?_
      grind
    · exact throw (by decide)
  · exact throw (by decide)

@[grind ←] theorem runBatch (item : Item) (g : Given) : FindsAll ok (runBatch item g) := by
  refine forParameters_bind fun _ => ?_
  split
  · refine streamed ((takeLazily item).bind fun taken htaken => ?_) fun row => pure _
    refine FindsAll.heap.andThen fun cells => (lift (.rows _ _ _)).andThen fun found => ?_
    refine (mapM fun row => ?_).andThen fun filled => ?_
    · grind
    · exact (mapM newList).andThen fun made => Supplies.pure htaken
  · exact throw (by decide)

@[grind ←] theorem runSlice (item : Item) (g : Given) : FindsAll ok (runSlice item g) := by
  refine forParameters_bind fun _ => ?_
  split
  · refine streamed ?_ fun row => pure _
    refine (takeAll item).andThen fun items => (lift (.wholeOf _)).andThen fun count => ?_
    refine Supplies.ite (Supplies.throw_bind (by decide)) (Supplies.ite (Supplies.pure nofun) ?_)
    exact (mapM newList).andThen fun made => Supplies.pure nofun
  · exact throw (by decide)

/-! ### Filters that write items down -/

@[grind ←] theorem runToJson (item : Item) (g : Given) : FindsAll ok (runToJson item g) := by
  refine forParameters_bind fun _ => ?_
  split
  · extract_lets write
    have hwrite (indent : Option Text) : FindsAll ok (write indent) := by
      grind
    clear_value write
    grind
  · exact throw (by decide)

@[grind ←] theorem inOrder (fuel : Nat) (item : Item) : FindsAll ok (inOrder fuel item) := by
  induction fuel generalizing item with
  | zero => exact pure item
  | succ fuel ih =>
    unfold Apply.inOrder
    split
    · grind
    · refine cellAt_bind fun c hc => ?_
      split
      · grind
      · refine (mapM fun e => ?_).bind fun entries => ?_
        · exact (ih e.2).bind fun v => pure _
        grind
      · exact pure _
    · exact pure _

@[grind ←] theorem runPretty (item : Item) (g : Given) : FindsAll ok (runPretty item g) := by
  grind [Apply.runPretty]

/-! ### Filters for numbers -/

@[grind ←] theorem runInt (item : Item) (g : Given) : FindsAll ok (runInt item g) := by
  refine forParameters_bind fun _ => ?_
  split
  · split
    · exact pure _
    · next fault hfault =>
      have hwhole := NeverMissing.ne (.asWhole _ _) hfault
      extract_lets readReal
      have hreal (x : PUnit) : FindsAll ok (readReal x) := by
        unfold readReal
        split
        · exact pure _
        · next fault hfault =>
          have hreal := NeverMissing.ne ((NeverMissing.asReal item).bind .truncate) hfault
          grind
      clear_value readReal
      grind
  · exact throw (by decide)

@[grind ←] theorem runFloat (item : Item) (g : Given) : FindsAll ok (runFloat item g) := by
  refine forParameters_bind fun _ => ?_
  split
  · split
    · exact pure _
    · next fault hfault =>
      have hreal := NeverMissing.ne (.asReal item) hfault
      grind
  · exact throw (by decide)

@[grind ←] theorem runAbs (item : Item) (g : Given) : FindsAll ok (runAbs item g) := by
  refine forParameters_bind fun _ => ?_
  grind

@[grind ←] theorem runRound (item : Item) (g : Given) : FindsAll ok (runRound item g) := by
  refine forParameters_bind fun _ => ?_
  split
  · split
    · extract_lets scaled
      have hscaled (round : Float → Option Int) : FindsAll ok (scaled round) := by
        refine (operate _ _ _).bind fun unit => (operate _ _ _).bind fun x => ?_
        exact (lift (.roundedBy round x)).bind fun n => operate _ _ _
      clear_value scaled
      grind
    · grind
  · exact throw (by decide)

@[grind ←] theorem runFileSize (item : Item) (g : Given) : FindsAll ok (runFileSize item g) := by
  refine forParameters_bind fun _ => ?_
  grind

@[grind ←] theorem runSum (set : Setting) (item : Item) (g : Given) :
    FindsAll ok (runSum set item g) := by
  refine forParameters_bind fun _ => ?_
  grind

/-! ### Filters for text -/

@[grind ←] theorem changed (f : Text → Text) (item : Item) (g : Given) :
    FindsAll ok (changed f item g) := by
  grind [Apply.changed]

@[grind ←] theorem restyled (f : Text → Text) (item : Item) (g : Given) :
    FindsAll ok (restyled f item g) := by
  grind [Apply.restyled]

@[grind ←] theorem runCenter (item : Item) (g : Given) : FindsAll ok (runCenter item g) := by
  refine forParameters_bind fun _ => ?_
  grind

@[grind ←] theorem runTrim (item : Item) (g : Given) : FindsAll ok (runTrim item g) := by
  refine forParameters_bind fun _ => ?_
  grind

@[grind ←] theorem runReplace (set : Setting) (item : Item) (g : Given) :
    FindsAll ok (runReplace set item g) := by
  refine forParameters_bind fun _ => ?_
  split
  · extract_lets replace
    have hreplace (limit : Int) : FindsAll ok (replace limit) := by
      unfold replace
      extract_lets replaceIn
      have hin (x : Bool × Text) : FindsAll ok (replaceIn x) := by
        grind
      clear_value replaceIn
      grind
    clear_value replace
    grind
  · exact throw (by decide)

@[grind ←] theorem runFormat (item : Item) (g : Given) : FindsAll ok (runFormat item g) := by
  grind [Apply.runFormat]

@[grind ←] theorem runIndent (item : Item) (g : Given) : FindsAll ok (runIndent item g) := by
  refine forParameters_bind fun _ => ?_
  split
  · extract_lets move
    have hmove (indent : Text) : FindsAll ok (move indent) := by
      grind
    clear_value move
    grind
  · exact throw (by decide)

@[grind ←] theorem runTruncate (item : Item) (g : Given) : FindsAll ok (runTruncate item g) := by
  refine forParameters_bind fun _ => ?_
  split
  · extract_lets cut
    have hcut (leeway : Int) : FindsAll ok (cut leeway) := by
      refine (lift (.wholeOf _)).bind fun length => heap_bind fun cells => ?_
      refine (lift (.count _)).bind fun markSize => ?_
      grind
    clear_value cut
    grind
  · exact throw (by decide)

@[grind ←] theorem runWordWrap (item : Item) (g : Given) : FindsAll ok (runWordWrap item g) := by
  refine forParameters_bind fun _ => ?_
  split
  · extract_lets wrap
    have hwrap (mark : Bool × Text) : FindsAll ok (wrap mark) := by
      grind
    clear_value wrap
    grind
  · exact throw (by decide)

@[grind ←] theorem runStripTags (item : Item) (g : Given) :
    FindsAll ok (runStripTags item g) := by
  grind [Apply.runStripTags]

@[grind ←] theorem bytesOf (item : Item) : FindsAll ok (bytesOf item) := by
  fun_cases Apply.bytesOf <;> grind

@[grind ←] theorem runUrlEncode (item : Item) (g : Given) :
    FindsAll ok (runUrlEncode item g) := by
  refine forParameters_bind fun _ => ?_
  extract_lets path query
  have hpath : FindsAll ok path := by
    grind
  have hquery (pairs : List (Item × Item)) : FindsAll ok (query pairs) := by
    grind
  clear_value path query
  grind

@[grind ←] theorem runUrlize (set : Setting) (item : Item) (g : Given) :
    FindsAll ok (runUrlize set item g) := by
  refine forParameters_bind fun _ => ?_
  split
  · refine heap_bind fun cells => ?_
    extract_lets linkRelated
    have hrelated (relations : List Text) : FindsAll ok (linkRelated relations) := by
      refine (isTrue _).bind ?_
      intro noFollow
      extract_lets _ _ linkAmong
      have hamong (schemes : List Text) : FindsAll ok (linkAmong schemes) := by
        unfold linkAmong
        extract_lets link linkChecked
        have hlink (target : Option Text) : FindsAll ok (link target) := by
          grind
        clear_value link
        have hchecked (x : PUnit) : FindsAll ok (linkChecked x) := by
          grind
        clear_value linkChecked
        grind
      clear_value linkAmong
      grind
    clear_value linkRelated
    grind
  · exact throw (by decide)

@[grind ←] theorem runXmlAttr (set : Setting) (item : Item) (g : Given) :
    FindsAll ok (runXmlAttr set item g) := by
  refine forParameters_bind fun _ => ?_
  split
  · refine heap_bind fun cells => ?_
    extract_lets write
    have hwrite (entries : List (Item × Item)) : FindsAll ok (write entries) := by
      refine (filterMapM fun e => ?_).bind fun parts => (isTrue _).bind fun _ => pure _
      grind
    clear_value write
    grind
  · exact throw (by decide)

/-! ### Tests -/

@[grind ←] theorem isCallable (item : Item) : FindsAll ok (Test.isCallable item) := by
  fun_cases Test.isCallable <;> grind

@[grind ←] theorem isSequence (item : Item) : FindsAll ok (Test.isSequence item) := by
  fun_cases Test.isSequence <;> grind

@[grind ←] theorem isIterable (item : Item) : FindsAll ok (Test.isIterable item) := by
  fun_cases Test.isIterable <;> grind

@[grind ←] theorem leaves (item divisor : Item) (rest : Int) :
    FindsAll ok (Test.leaves item divisor rest) := by
  grind [Test.leaves]

@[grind ←] theorem alone (t : Test) (item : Item) : FindsAll ok (t.alone item) := by
  fun_cases Test.alone <;> grind

@[grind ←] theorem runTest (t : Test) (item : Item) (g : Given) :
    FindsAll ok (t.run item g) := by
  unfold Test.run
  grind

/-! ### Filters -/

@[grind ←] theorem runDefault (item : Item) (g : Given) :
    FindsAll ok (Filter.runDefault item g) := by
  refine forParameters_bind fun _ => ?_
  grind

@[grind ←] theorem runEscape (item : Item) (g : Given) :
    FindsAll ok (Filter.runEscape item g) := by
  grind [Filter.runEscape]

@[grind ←] theorem runForceEscape (item : Item) (g : Given) :
    FindsAll ok (Filter.runForceEscape item g) := by
  grind [Filter.runForceEscape]

@[grind ←] theorem runAttr (set : Setting) (item : Item) (g : Given) :
    FindsAll ok (Filter.runAttr set item g) := by
  refine forParameters_bind fun _ => ?_
  grind

@[grind ←] theorem nameOf {ofName? : Text → Option α} (item : Item) :
    FindsAll ok (Filter.nameOf ofName? item) := by
  fun_cases Filter.nameOf <;> grind

theorem itemsIfTrue (item : Item) :
    Supplies ok EndWell NotMissing (Filter.itemsIfTrue item) :=
  (isTrue item).andThen fun _ => Supplies.ite (takeLazily item) (Supplies.pure nofun)

@[grind ←] theorem runSelect (set : Setting) (keeps byAttribute : Bool) (item : Item)
    (g : Given) : FindsAll ok (Filter.runSelect set keeps byAttribute item g) := by
  refine streamed (itemsIfTrue item) fun i => ?_
  extract_lets keep select
  have hkeep (passes : Bool) : FindsAll ok (keep passes) := pure _
  clear_value keep
  have hselect (x : Item × List Item) : FindsAll ok (select x) := by
    grind
  clear_value select
  grind

@[grind ←] theorem attributeOfEach (set : Setting) (path : Item) (named : List (Text × Item))
    (item : Item) : FindsAll ok (Filter.attributeOfEach set path named item) := by
  grind [Filter.attributeOfEach]

@[grind ←] theorem runWithin (fuel : Nat) (f : Filter) (set : Setting) (item : Item)
    (g : Given) : FindsAll ok (f.runWithin fuel set item g) := by
  induction fuel generalizing f item g with
  | zero => exact throw (by decide)
  | succ fuel ih =>
    cases f
    case map =>
      refine streamed (itemsIfTrue item) fun i => ?_
      grind
    all_goals grind [Filter.runWithin]

@[grind ←] theorem run (f : Filter) (set : Setting) (item : Item) (g : Given) :
    FindsAll ok (f.run set item g) := runWithin _ f set item g

end FindsAll

end Template

end Scaffold
