import Scaffold.Proofs.Template.Operate

/-!
# Filters and tests on sound items

Filters that make a text of an item do so for every sound one. Those that join, count, pick or sort
what is in an item can only find that there is nothing to be had, or that it has no order; and most
tests have an answer for every item.
-/

namespace Scaffold

namespace Template

variable {E : Reckoning} {σ : Shapes} {item : Item} {items : List Item}

namespace Looks

open Apply

/-- A step whose result is a sound item. -/
abbrev GivesSound (E : Reckoning) (σ : Shapes) (m : Work Item) : Prop :=
  Looks E σ (fun i => i.IsSound E σ) m

/-! ### Filters -/

theorem changed (f : Text → Text) (h : item.IsSound E σ) :
    GivesSound E σ (changed f item ⟨[], []⟩) :=
  seq (lift_of_eq rfl) fun _ _ => (softText h).seq fun _ _ => pure (.text ..)

theorem restyled (f : Text → Text) (h : item.IsSound E σ) :
    GivesSound E σ (restyled f item ⟨[], []⟩) :=
  seq (lift_of_eq rfl) fun _ _ => (writtenText h).seq fun _ _ => pure (.text ..)

/-- A filter that makes a text of every item makes one of a sound item. -/
theorem run_ofText {f : Filter} (hf : f.isOfText = true) (set : Setting) (h : item.IsSound E σ) :
    GivesSound E σ (f.run set item ⟨[], []⟩) := by
  cases f with
  | capitalize | lower | string | upper => exact changed _ h
  | kebabCase | lowerCamelCase | pascalCase | plural | snakeCase => exact restyled _ h
  | escape =>
    refine seq (lift_of_eq rfl) fun _ _ => heap.seq fun cells hd => ?_
    exact (lift (Item.escapedText_fails hd h)).seq fun _ _ => pure (.text ..)
  | forceEscape =>
    exact seq (lift_of_eq rfl) fun _ _ => (writtenText h).seq fun _ _ => pure (.text ..)
  | safe =>
    exact seq (lift_of_eq rfl) fun _ _ => (writtenText h).seq fun _ _ => pure (.text ..)
  | title =>
    exact seq (lift_of_eq rfl) fun _ _ => (softText h).seq fun _ _ => pure (.text ..)
  | trim =>
    refine seq (lift_of_eq rfl) ?_
    rintro _ rfl
    exact (softText h).seq fun _ _ => seq (lift_of_eq rfl) fun _ _ => pure (.text ..)
  | _ => cases hf

/-- What stands in for an item that is not there is one of the arguments, or an empty text. -/
theorem runDefault (hitems : AreSound E σ items) (hlength : items.length ≤ 2)
    (h : item.IsSound E σ) : GivesSound E σ (Filter.runDefault item ⟨items, []⟩) := by
  obtain ⟨absent, alsoFalse, hgiven, habsent, hfalse⟩ : ∃ absent alsoFalse,
      Given.forParameters ⟨items, []⟩
        [("default_value", some (.plain [])), ("boolean", some (.bool false))] =
          .ok [absent, alsoFalse] ∧ absent.IsSound E σ ∧ alsoFalse.IsSound E σ := by
    match items, hlength with
    | [], _ => exact ⟨_, _, rfl, .text .., .bool _⟩
    | [a], _ => exact ⟨a, _, rfl, hitems a (.head _), .bool _⟩
    | [a, b], _ => exact ⟨a, b, rfl, hitems a (.head _), hitems b (.tail _ (.head _))⟩
  rw [Filter.runDefault, hgiven]
  refine seq (lift_of_eq rfl) ?_
  rintro _ rfl
  dsimp only
  split
  · exact pure habsent
  · refine (isTrue hfalse).seq fun isAlsoFalse _ => (isTrue h).seq fun isTrue _ => ?_
    split
    · exact pure habsent
    · exact pure h

theorem runFirst (hunfit : E.has .unfit) (set : Setting) (h : item.IsSound E σ) :
    GivesSound E σ (runFirst set item ⟨[], []⟩) := by
  refine seq (lift_of_eq rfl) fun _ _ => (takeFirst hunfit h).seq fun found hfound => pure ?_
  cases found with
  | none => exact .undefined _
  | some i => exact hfound i rfl

theorem runLast (hunfit : E.has .unfit) (set : Setting) (h : item.IsSound E σ) :
    GivesSound E σ (runLast set item ⟨[], []⟩) := by
  refine seq (lift_of_eq rfl) fun _ _ => (backwards hunfit h).seq fun items hitems => pure ?_
  cases items with
  | nil => exact .undefined _
  | cons i items => exact hitems i (.head _)

theorem runCount (hunfit : E.has .unfit) (hlong : E.has .badValue) (h : item.IsSound E σ) :
    GivesSound E σ (runCount item ⟨[], []⟩) :=
  seq (lift_of_eq rfl) fun _ _ => heap.seq fun cells _ =>
    (lift (Item.count_fails hunfit h cells)).seq fun _ _ => pure (.int fun _ _ _ => hlong)

/-! ### Joining -/

theorem anyM {p : Item → Work Bool} (h : ∀ i ∈ items, Looks E σ (fun _ => True) (p i)) :
    Looks E σ (fun _ => True) (items.anyM p) := by
  induction items with
  | nil => exact pure trivial
  | cons i items ih =>
    obtain ⟨hfirst, hrest⟩ := List.forall_mem_cons.mp h
    rw [List.anyM_cons]
    exact hfirst.seq fun _ _ => Abides.ite (fun _ => pure trivial) fun _ => ih hrest

/-- Sound items can be joined by any other, unless there are none to be had. -/
theorem runJoin (hunfit : E.has .unfit) (set : Setting) (hitems : AreSound E σ items)
    (hlength : items.length ≤ 1) (h : item.IsSound E σ) :
    GivesSound E σ (runJoin set item ⟨items, []⟩) := by
  obtain ⟨separator, hgiven, hseparator⟩ : ∃ separator, Given.forParameters ⟨items, []⟩
      [("d", some (.plain [])), ("attribute", some .null)] = .ok [separator, .null] ∧
      separator.IsSound E σ := by
    match items, hlength with
    | [], _ => exact ⟨_, rfl, .text ..⟩
    | [a], _ => exact ⟨a, rfl, hitems a (.head _)⟩
  rw [Apply.runJoin, hgiven]
  refine seq (lift_of_eq rfl) ?_
  rintro _ rfl
  refine seq (lift_of_eq rfl) ?_
  rintro _ rfl
  refine (takeAll hunfit h).seq fun parts hparts => ?_
  refine (mapM fun i hi => (pure (hparts i hi) : GivesSound E σ _)).seq fun parts hparts => ?_
  refine heap.seq fun cells hd => ?_
  have hplain : GivesSound E σ (do
      return .plain (Text.join (← Template.writtenText separator)
        (← parts.mapM Template.writtenText))) :=
    (writtenText hseparator).seq fun _ _ =>
      (mapM fun i hi => writtenText (hparts i hi)).seq fun _ _ => pure (.text ..)
  have hsafe : GivesSound E σ (do
      let s ← Template.lift (separator.escapedText cells)
      return .text true (Text.join s
        (← parts.mapM fun i => Template.lift (i.escapedText cells)))) :=
    (lift (Item.escapedText_fails hd hseparator)).seq fun _ _ =>
      (mapM fun i hi => lift (Item.escapedText_fails hd (hparts i hi))).seq fun _ _ =>
        pure (.text ..)
  split
  · exact hplain
  · refine (isMarkup hseparator).seq fun isSafe _ => Abides.ite (fun _ => hsafe) fun _ => ?_
    refine (anyM fun i hi => isMarkup (hparts i hi)).seq fun areSafe _ => ?_
    exact Abides.ite (fun _ => hsafe) fun _ => hplain

/-! ### Order -/

theorem sortedBy {es : List (Item × Item)} (hunfit : E.has .unfit) (hes : AreEntries E σ es)
    (reverse : Item) : Looks E σ (AreEntries E σ) (sortedBy es reverse) := by
  have hwhole : FailsAs E.has (Item.TextMethod.wholeOf reverse) := by
    rw [Item.TextMethod.wholeOf]
    split
    · trivial
    · exact hunfit
  refine (lift hwhole).seq fun n _ => heap.seq fun cells hd => lift ?_
  have hsorted (es : List (Item × Item)) (hes : AreEntries E σ es) :
      Gives (AreEntries E σ) E.has (Item.sorted (Item.ordered cells .lt) es) :=
    Item.sorted_gives hes fun _ _ ha hb => Item.ordered_fails hunfit hd .lt ha hb
  split
  · have hreversed := hsorted es.reverse fun e he => hes e (List.mem_reverse.mp he)
    exact hreversed.bind fun _ hmade e he => hmade e (List.mem_reverse.mp he)
  · exact hsorted es hes

/-- Where no path leads away from an item, it is its own key, whatever the case of its letters. -/
theorem keyOf {k : Key} (hk : k.path = []) (set : Setting) (h : item.IsSound E σ) :
    GivesSound E σ (k.of set item) := by
  have hitself : Looks E σ (fun i => i = item) (follow set [] k.default item) := pure rfl
  rw [Key.of, hk]
  refine hitself.seq ?_
  rintro _ rfl
  split
  · exact pure h
  · refine pure ?_
    rw [folded.eq_def]
    split
    · exact .text ..
    · exact h

end Looks

namespace Abides

open Apply

theorem runList (hunfit : E.has .unfit) (h : item.IsSound E σ) :
    Abides E σ (fun τ i => i.IsSound E τ) (runList item ⟨[], []⟩) :=
  Looks.seq (Looks.lift_of_eq rfl) fun _ _ => (Looks.takeAll hunfit h).seq fun _ hitems =>
    newList hitems

theorem runSort (hunfit : E.has .unfit) (set : Setting) (h : item.IsSound E σ) :
    Abides E σ (fun τ i => i.IsSound E τ) (runSort set item ⟨[], []⟩) := by
  refine Looks.seq (Looks.lift_of_eq rfl) ?_
  rintro _ rfl
  have hkeys : Looks E σ (fun keys => ∀ k ∈ keys, k.path = [])
      (Key.ofAttributes .null (.bool false)) := by
    refine Looks.seq (Looks.lift_of_eq rfl) ?_
    rintro _ rfl
    refine (Looks.isTrue (.bool false)).seq fun _ _ => Looks.pure fun k hk => ?_
    rw [List.mem_singleton.mp hk]
  refine hkeys.seq fun keys hkeys => (Looks.takeAll hunfit h).seq fun items hitems => ?_
  have hkeyed : Looks E σ (AreEntries E σ) (items.mapM fun i => do
      return (.tuple false (← keys.mapM fun k => k.of set i), i)) :=
    Looks.mapM fun i hi => (Looks.mapM fun k hk => Looks.keyOf (hkeys k hk) set (hitems i hi)).seq
      fun _ hfound => Looks.pure ⟨.tuple false hfound, hitems i hi⟩
  refine hkeyed.seq fun _ hkeyed => (Looks.sortedBy hunfit hkeyed _).seq fun _ hsorted => ?_
  exact newList (List.forall_mem_map.mpr fun e he => (hsorted e he).2)

/-- A filter makes a sound item of one, if it is reckoned with what it risks. -/
theorem run {f : Filter} (hrisks : E.hasAll f.risksOfItem)
    (hlength : items.length ≤ f.mostArguments) (set : Setting) (hitems : AreSound E σ items)
    (h : item.IsSound E σ) :
    Abides E σ (fun τ i => i.IsSound E τ) (f.run set item ⟨items, []⟩) := by
  have halone (hmost : f.mostArguments = 0) : items = [] :=
    List.length_eq_zero_iff.mp (Nat.le_zero.mp (hmost ▸ hlength))
  have hsound {m : Work Item} (hm : Looks.GivesSound E σ m) :
      Abides E σ (fun τ i => i.IsSound E τ) m := hm.abides fun _ hi => hi
  cases f with
  | default => exact hsound (Looks.runDefault hitems hlength h)
  | join => exact hsound (Looks.runJoin (hrisks _ (.head _)) set hitems hlength h)
  | first =>
    obtain rfl := halone rfl
    exact hsound (Looks.runFirst (hrisks _ (.head _)) set h)
  | last =>
    obtain rfl := halone rfl
    exact hsound (Looks.runLast (hrisks _ (.head _)) set h)
  | count =>
    obtain rfl := halone rfl
    exact hsound (Looks.runCount (hrisks _ (.head _)) (hrisks _ (.tail _ (.head _))) h)
  | list =>
    obtain rfl := halone rfl
    exact runList (hrisks _ (.head _)) h
  | sort =>
    obtain rfl := halone rfl
    exact runSort (hrisks _ (.head _)) set h
  | capitalize | escape | forceEscape | kebabCase | lower | lowerCamelCase | pascalCase | plural
  | safe | snakeCase | string | title | trim | upper =>
    obtain rfl := halone rfl
    exact hsound (Looks.run_ofText rfl set h)
  | _ => exact absurd hrisks E.isProper

/-- **Filters** come to nothing but what they risk. -/
theorem applyFilter (eng : Engine) (p : Place) {name : Text}
    (hrisks : E.hasAll (Filter.risks (Filter.ofName? name) items.length))
    (hitems : AreSound E σ items) (h : item.IsSound E σ) :
    Abides E σ (fun τ i => i.IsSound E τ) (applyFilter eng p name item ⟨items, []⟩) := by
  rw [Template.applyFilter]
  split
  · next f hf =>
    rw [hf, Filter.risks] at hrisks
    split at hrisks
    · exact run hrisks ‹_› _ hitems h
    · exact absurd hrisks E.isProper
  · exact throw E.misuse

end Abides

namespace Looks

/-! ### Tests -/

/-- A step whose result is a truth value, which may be either. -/
abbrev Answers (E : Reckoning) (σ : Shapes) (m : Work Bool) : Prop := Looks E σ (fun _ => True) m

theorem hasContents (item : Item) : Answers E σ (do
    match item.contents (← Template.heap) with
    | .ok _ => return Bool.true
    | .error .undefined => throw .undefined
    | .error _ => return Bool.false) := by
  refine heap.seq fun cells _ => ?_
  split
  · exact pure trivial
  · exact Abides.throw E.undefined
  · exact pure trivial

theorem isIterable (h : item.IsSound E σ) : Answers E σ (Test.isIterable item) := by
  rw [Test.isIterable.eq_def]
  dsimp only
  split
  · refine (cellAt_ref h).seq fun c _ => ?_
    split
    · exact pure trivial
    · exact hasContents _
  · exact hasContents _

theorem isCallable (h : item.IsSound E σ) : Answers E σ (Test.isCallable item) := by
  rw [Test.isCallable.eq_def]
  split
  all_goals first
    | exact pure trivial
    | exact (cellAt_ref h).seq fun c _ => by split <;> exact pure trivial

theorem isSequence (h : item.IsSound E σ) : Answers E σ (Test.isSequence item) := by
  rw [Test.isSequence.eq_def]
  split
  all_goals first
    | exact pure trivial
    | exact (cellAt_ref h).seq fun c _ => by split <;> exact pure trivial

/-- A test that has an answer for every item has one for a sound item. -/
theorem run_total {t : Test} (ht : t.isTotal = true) (h : item.IsSound E σ) :
    Answers E σ (t.run item ⟨[], []⟩) := by
  have halone : Answers E σ (t.alone item) := by
    cases t with
    | iterable => exact isIterable h
    | lower | upper => exact (writtenText h).seq fun _ _ => pure trivial
    | callable => exact isCallable h
    | sequence => exact isSequence h
    | escaped | mapping =>
      rw [Test.alone.eq_def]
      dsimp only
      split
      all_goals first
        | exact pure trivial
        | exact (cellAt_ref h).seq fun _ _ => pure trivial
    | _ => first | exact pure trivial | cases ht
  cases t <;> first | exact seq (lift_of_eq rfl) fun _ _ => halone | cases ht

/-- The one argument by position is given to the one parameter. -/
theorem onlyArgument (other : Item) (word : String) : Looks E σ (fun i => i = other) (do
    match ← Template.lift (Given.forParameters ⟨[other], []⟩ [(word, none)]) with
    | [found] => return found
    | _ => throw .unfit) := by
  refine seq (lift_of_eq rfl) ?_
  rintro _ rfl
  exact pure rfl

/-- **Tests** come to nothing but what they risk. -/
theorem applyTest {name : Text}
    (hrisks : E.hasAll (Test.risks (Test.ofName? name) items.length))
    (hitems : AreSound E σ items) (h : item.IsSound E σ) :
    GivesSound E σ (applyTest name item ⟨items, []⟩) := by
  have hanswer {t : Test} (ht : Test.ofName? name = some t) :
      Answers E σ (t.run item ⟨items, []⟩) := by
    rw [ht] at hrisks
    unfold Test.risks at hrisks
    split at hrisks
    · contradiction
    · next heq hlength =>
      obtain rfl := Option.some.inj heq
      obtain ⟨other, rfl⟩ := List.length_eq_one_iff.mp hlength
      refine (onlyArgument other "b").seq ?_
      rintro _ rfl
      exact compareItems hrisks h (hitems _ (.head _))
    · next heq hlength =>
      obtain rfl := Option.some.inj heq
      obtain ⟨other, rfl⟩ := List.length_eq_one_iff.mp hlength
      exact (onlyArgument other "other").seq fun _ _ => pure trivial
    · next heq hlength =>
      obtain rfl := Option.some.inj heq
      obtain rfl := List.length_eq_zero_iff.mp hlength
      split at hrisks
      · exact run_total ‹_› h
      · exact absurd hrisks E.isProper
    · exact absurd hrisks E.isProper
  rw [Template.applyTest]
  split
  · next t ht => exact (hanswer ht).seq fun _ _ => pure (.bool _)
  · exact Abides.throw E.misuse

end Looks

end Template

end Scaffold
