import Scaffold.Proofs.Template.Shape

/-!
# Looking at sound items

Where the cells are as their shapes tell, sound items can be looked at: their truth is known, they
are compared for equality and written out, and what is in them is sound again. All of that can only
fail because something is not there or nests too deep, or because a number is too long to be
written, which is reckoned with then.

To be ordered or gone over, items have to be of the right kind. That is said where it is reckoned
with that they are not.
-/

namespace Scaffold

namespace Template

namespace Item

variable {E : Reckoning} {σ : Shapes} {cells : Array Cell} {a b item key : Item}
  {as bs items : List Item} {es : List (Item × Item)} {expected : Fault → Prop}
  {compared : Item → Item → Except Fault Bool}

/-- What is known of a value in a cell: it is a collection of sound items, or a routine. -/
theorem IsSound.cases_ref {address : Address} (h : (ref address).IsSound E σ)
    (hd : σ.Describes E cells) :
    (∃ items, cells[address]? = some (.list items) ∧ AreSound E σ items) ∨
      (∃ items, cells[address]? = some (.set items) ∧ AreSound E σ items) ∨
      (∃ es, cells[address]? = some (.map es) ∧ AreEntries E σ es) ∨
      (∃ r, cells[address]? = some (.routine r)) ∨
      ∃ l, cells[address]? = some (.loop l) ∧ l.IsSound E σ ∧ E.has .badValue := by
  cases h with
  | value ha =>
    obtain ⟨c, hc, hfits⟩ := hd _ _ ha
    cases hfits with
    | list h => exact .inl ⟨_, hc, h⟩
    | set h => exact .inr (.inl ⟨_, hc, h⟩)
    | map h => exact .inr (.inr (.inl ⟨_, hc, h⟩))
    | routine r => exact .inr (.inr (.inr (.inl ⟨r, hc⟩)))
  | loop ha hlong =>
    obtain ⟨c, hc, hfits⟩ := hd _ _ ha
    cases hfits with
    | loop h => exact .inr (.inr (.inr (.inr ⟨_, hc, h, hlong⟩)))

theorem IsSound.of_list {address : Address} (h : (ref address).IsSound E σ)
    (hd : σ.Describes E cells) (hc : cells[address]? = some (.list items)) :
    AreSound E σ items := by
  rcases h.cases_ref hd with ⟨_, h, hs⟩ | ⟨_, h, -⟩ | ⟨_, h, -⟩ | ⟨_, h⟩ | ⟨_, h, -⟩ <;>
    cases hc.symm.trans h
  exact hs

theorem IsSound.of_set {address : Address} (h : (ref address).IsSound E σ)
    (hd : σ.Describes E cells) (hc : cells[address]? = some (.set items)) : AreSound E σ items := by
  rcases h.cases_ref hd with ⟨_, h, -⟩ | ⟨_, h, hs⟩ | ⟨_, h, -⟩ | ⟨_, h⟩ | ⟨_, h, -⟩ <;>
    cases hc.symm.trans h
  exact hs

theorem IsSound.of_map {address : Address} (h : (ref address).IsSound E σ)
    (hd : σ.Describes E cells) (hc : cells[address]? = some (.map es)) : AreEntries E σ es := by
  rcases h.cases_ref hd with ⟨_, h, -⟩ | ⟨_, h, -⟩ | ⟨_, h, hs⟩ | ⟨_, h⟩ | ⟨_, h, -⟩ <;>
    cases hc.symm.trans h
  exact hs

/-! ### Truth and equality -/

theorem truth_fails (cells : Array Cell) (h : item.IsSound E σ) :
    FailsAs E.has (item.truth cells) := by
  cases h with
  | undefined strict =>
    cases strict with
    | true => exact E.undefined
    | false => trivial
  | @value address ha | @loop address ha =>
    rw [truth]
    split <;> trivial
  | _ => trivial

theorem allEqual_fails (h : ∀ a ∈ as, ∀ b ∈ bs, FailsAs expected (compared a b)) :
    FailsAs expected (allEqual compared as bs) := by
  induction as generalizing bs with
  | nil => cases bs <;> trivial
  | cons a as ih =>
    cases bs with
    | nil => trivial
    | cons b bs =>
      have hrest : FailsAs expected (allEqual compared as bs) :=
        ih fun a ha b hb => h a (.tail _ ha) b (.tail _ hb)
      rw [allEqual]
      split
      · exact hrest
      · refine (h a (.head _) b (.head _)).bind fun isEqual _ => ?_
        split
        · exact hrest
        · trivial

theorem isAmong_fails (h : ∀ a ∈ as, FailsAs expected (compared a item)) :
    FailsAs expected (isAmong compared item as) := by
  induction as with
  | nil => trivial
  | cons a as ih =>
    rw [List.forall_mem_cons] at h
    rw [isAmong]
    split
    · trivial
    · refine h.1.bind fun isEqual _ => ?_
      split
      · trivial
      · exact ih h.2

/-- What is found under a key is the value of an entry. -/
theorem lookup?_gives (h : ∀ e ∈ es, FailsAs expected (compared e.1 key)) :
    Gives (fun found => ∀ v ∈ found, ∃ e ∈ es, e.2 = v) expected (lookup? compared key es) := by
  induction es with
  | nil => exact fun _ hv => nomatch hv
  | cons e es ih =>
    obtain ⟨k, v⟩ := e
    rw [List.forall_mem_cons] at h
    have hfirst : ∀ w ∈ some v, ∃ e ∈ (k, v) :: es, e.2 = w := by
      rintro w ⟨⟩
      exact ⟨(k, v), .head _, rfl⟩
    rw [lookup?]
    split
    · exact hfirst
    · refine h.1.bind fun isEqual _ => ?_
      split
      · exact hfirst
      · exact (ih h.2).mono (fun found hfound w hw =>
          let ⟨e, he, hew⟩ := hfound w hw
          ⟨e, .tail _ he, hew⟩) fun _ h => h

/-- Whether all of some items are among others, as equality and order of sets have it. -/
theorem allAmong_fails (h : ∀ a ∈ as, ∀ b ∈ bs, FailsAs expected (compared b a)) :
    FailsAs expected
      (as.foldlM (fun all a => do if all then isAmong compared a bs else return false) true) :=
  Gives.foldlM (fun _ => True) trivial fun all _ a ha => by
    split
    · exact isAmong_fails (h a ha)
    · trivial

/-- Whether all entries of a mapping are among those of another one, as equality has it. -/
theorem allFound_fails {fs : List (Item × Item)} (h : ∀ e ∈ es, ∀ f ∈ fs,
    FailsAs expected (compared f.1 e.1) ∧ FailsAs expected (compared e.2 f.2)) :
    FailsAs expected (es.foldlM (fun all (k, v) => do
      if !all then return false
      match ← lookup? compared k fs with
      | some w => if isSame v w then return true else compared v w
      | none => return false) true) := by
  refine Gives.foldlM (fun _ => True) trivial fun all _ e he => ?_
  obtain ⟨k, v⟩ := e
  dsimp only
  split
  · trivial
  · refine (lookup?_gives fun f hf => (h _ he f hf).1).bind fun found hfound => ?_
    split
    · next w =>
      obtain ⟨f, hf, rfl⟩ := hfound w rfl
      split
      · trivial
      · exact (h _ he f hf).2
    · trivial

/-- **Sound items can be compared for equality**, unless they nest too deep. -/
theorem equalWithin_fails (hd : σ.Describes E cells) (fuel : Nat) (ha : a.IsSound E σ)
    (hb : b.IsSound E σ) : FailsAs E.has (equalWithin cells fuel a b) := by
  induction fuel generalizing a b with
  | zero => exact E.tooDeep
  | succ fuel ih =>
    have hamong {as bs : List Item} (has : AreSound E σ as) (hbs : AreSound E σ bs) :
        FailsAs E.has (if as.length ≠ bs.length then .ok false
          else as.foldlM (fun all a => do
            if all then isAmong (fun a b => equalWithin cells fuel a b) a bs else return false)
            true) := by
      split
      · trivial
      · exact allAmong_fails fun a ha b hb => ih (hbs b hb) (has a ha)
    rw [equalWithin.eq_def]
    dsimp only
    split
    · exact E.undefined
    · exact E.undefined
    · trivial
    · trivial
    · trivial
    · trivial
    · trivial
    · trivial
    · cases ha with | tuple _ has =>
      cases hb with | tuple _ hbs =>
      exact allEqual_fails fun a ha b hb => ih (has a ha) (hbs b hb)
    · trivial
    · trivial
    · cases ha
    · cases ha
    · split
      · trivial
      · split
        · next hm hn =>
          exact allEqual_fails fun a ha' b hb' =>
            ih (ha.of_list hd hm a ha') (hb.of_list hd hn b hb')
        · next hm hn => exact hamong (ha.of_set hd hm) (hb.of_set hd hn)
        · next es fs hm hn =>
          have hes := ha.of_map hd hm
          have hfs := hb.of_map hd hn
          split
          · trivial
          · exact allFound_fails fun e he f hf =>
              ⟨ih (hfs f hf).1 (hes e he).1, ih (hes e he).2 (hfs f hf).2⟩
        · trivial
    · split <;> trivial

theorem equal_fails (hd : σ.Describes E cells) (ha : a.IsSound E σ) (hb : b.IsSound E σ) :
    FailsAs E.has (equal cells a b) :=
  equalWithin_fails hd compareDepth ha hb

/-! ### Text -/

theorem isLong_of_le {n : Int} (h : Decimal.tenTo mostDigits ≤ n.natAbs) : isLong n = true :=
  decide_eq_true h

/-- A number that cannot be written is long. -/
theorem eq_of_intText {n : Int} {f : Fault} (h : intText n = .error f) :
    isLong n = true ∧ f = .badValue := by
  have hlong : Decimal.tenTo mostDigits ≤ n.natAbs → isLong n = true := isLong_of_le
  unfold intText at h
  -- the power itself is of no interest, and too large to be looked at
  generalize Decimal.tenTo mostDigits = most at hlong h
  split at h
  · exact ⟨hlong ‹_›, (Except.error.inj h).symm⟩
  · cases h

/-- **Sound items can be shown**, unless they nest too deep. -/
theorem shownIn_fails (hd : σ.Describes E cells) (fuel : Nat) (above : List Address)
    (h : item.IsSound E σ) : FailsAs E.has (shownIn cells fuel above item) := by
  induction fuel generalizing above item with
  | zero => exact E.tooDeep
  | succ fuel ih =>
    have hitems (above : List Address) {items : List Item} (h : AreSound E σ items) :
        FailsAs E.has (items.mapM fun i => shownIn cells fuel above i) :=
      (Gives.mapM (fun _ => True) fun i hi => ih above (h i hi)).mono (fun _ _ => trivial)
        fun _ h => h
    have hentries (above : List Address) {es : List (Item × Item)} (h : AreEntries E σ es) :
        FailsAs E.has (es.mapM fun e => do
          return (← shownIn cells fuel above e.1, ← shownIn cells fuel above e.2)) :=
      (Gives.mapM (fun _ => True) fun e he => (ih above (h e he).1).bind fun k _ =>
        (ih above (h e he).2).map fun v _ => trivial).mono (fun _ _ => trivial) fun _ h => h
    cases item with
    | int n =>
      cases h with | int h =>
      rw [shownIn]
      cases hn : intText n with
      | ok s => trivial
      | error f =>
        obtain ⟨hlong, rfl⟩ := eq_of_intText hn
        exact h n (.head _) hlong
    | tuple isGroup items =>
      cases h with | tuple _ h =>
      rw [shownIn]
      exact (hitems above h).bind fun _ _ => trivial
    | range | aspect => cases h
    | ref address =>
      rw [shownIn]
      rcases h.cases_ref hd with ⟨items, hc, hs⟩ | ⟨items, hc, hs⟩ | ⟨es, hc, hs⟩ | ⟨r, hc⟩ |
        ⟨l, hc, -⟩ <;> rw [hc] <;> dsimp only
      · split
        · trivial
        · exact (hitems _ hs).bind fun _ _ => trivial
      · exact (hitems _ hs).bind fun _ _ => trivial
      · split
        · trivial
        · exact (hentries _ hs).bind fun _ _ => trivial
      · trivial
      · trivial
    | _ =>
      rw [shownIn]
      trivial

theorem shown_fails (hd : σ.Describes E cells) (h : item.IsSound E σ) :
    FailsAs E.has (shown cells item) :=
  shownIn_fails hd depth [] h

/-- **Sound items can be written out.** -/
theorem written_fails (hd : σ.Describes E cells) (h : item.IsSound E σ) :
    FailsAs E.has (item.written cells) := by
  have hshown := shown_fails hd h
  rw [written.eq_def]
  split
  · split
    · exact E.undefined
    · trivial
  · trivial
  · trivial
  · trivial
  · split
    · trivial
    · exact hshown
  · exact hshown

theorem escapedText_fails (hd : σ.Describes E cells) (h : item.IsSound E σ) :
    FailsAs E.has (item.escapedText cells) := by
  have hwritten : FailsAs E.has ((item.written cells).map escaped) :=
    (written_fails hd h).map fun _ _ => trivial
  rw [escapedText.eq_def]
  split
  · trivial
  · split
    · trivial
    · exact hwritten
  · exact hwritten

/-! ### What is in an item -/

theorem areSound_characters (safe : Bool) (s : Text) :
    AreSound E σ (s.map fun c => text safe [c]) := by
  simp only [List.forall_mem_map]
  exact fun c _ => .text safe [c]

theorem areSound_bytes (bytes : List UInt8) :
    AreSound E σ (bytes.map fun u => int u.toNat) := by
  simp only [List.forall_mem_map]
  exact fun u _ => .int (areWritable_of_lt (by have := u.toNat_lt; omega))

/-- What can be gone over holds sound items, and nothing comes after them. -/
theorem contents_gives (hunfit : E.has .unfit) (hd : σ.Describes E cells) (h : item.IsSound E σ) :
    Gives (fun r => AreSound E σ r.1 ∧ r.2 = none) E.has (item.contents cells) := by
  cases item with
  | undefined strict =>
    cases strict with
    | true => exact E.undefined
    | false => exact ⟨fun _ hi => (nomatch hi), rfl⟩
  | text safe s => exact ⟨areSound_characters safe s, rfl⟩
  | bytes b => exact ⟨areSound_bytes b, rfl⟩
  | tuple isGroup items =>
    cases h with | tuple _ h =>
    exact ⟨h, rfl⟩
  | range | aspect => cases h
  | ref address =>
    rw [contents]
    rcases h.cases_ref hd with ⟨items, hc, hs⟩ | ⟨items, hc, hs⟩ | ⟨es, hc, hs⟩ | ⟨r, hc⟩ |
      ⟨l, hc, -⟩ <;> rw [hc]
    · exact ⟨hs, rfl⟩
    · exact ⟨hs, rfl⟩
    · exact ⟨List.forall_mem_map.mpr fun e he => (hs e he).1, rfl⟩
    · exact hunfit
    · exact hunfit
  | _ => exact hunfit

theorem count_fails (hunfit : E.has .unfit) (h : item.IsSound E σ) (cells : Array Cell) :
    FailsAs E.has (item.count cells) := by
  cases item with
  | undefined strict =>
    cases strict with
    | true => exact E.undefined
    | false => trivial
  | range | aspect => cases h
  | ref address =>
    rw [count]
    split
    · trivial
    · trivial
    · trivial
    · trivial
    · exact hunfit
  | text | bytes | tuple => trivial
  | _ => exact hunfit

theorem isSound_of_getElem? {n : Nat} (h : AreSound E σ items) (hn : items[n]? = some item) :
    item.IsSound E σ :=
  h item (List.mem_of_getElem? hn)

/-- What lies at a position or under a key is sound. A key that cannot be one leads nowhere. -/
theorem at?_gives (hd : σ.Describes E cells) (h : item.IsSound E σ) (hkey : key.IsSound E σ) :
    Gives (fun found => ∀ i ∈ found, i.IsSound E σ) E.has (item.at? cells key) := by
  have hpositioned {items : List Item} (h : AreSound E σ items) :
      ∀ i ∈ key.integer?.bind fun n => (indexOf? items.length n).bind fun n => items[n]?,
        i.IsSound E σ := by
    intro i hi
    obtain ⟨n, -, hi⟩ := Option.bind_eq_some_iff.mp hi
    obtain ⟨n, -, hi⟩ := Option.bind_eq_some_iff.mp hi
    exact isSound_of_getElem? h hi
  cases item with
  | undefined strict => exact E.undefined
  | text safe s =>
    intro i hi
    obtain ⟨n, -, hi⟩ := Option.bind_eq_some_iff.mp hi
    obtain ⟨n, -, hi⟩ := Option.bind_eq_some_iff.mp hi
    obtain ⟨c, -, rfl⟩ := Option.map_eq_some_iff.mp hi
    exact .text safe [c]
  | bytes b => exact hpositioned (areSound_bytes b)
  | tuple isGroup items =>
    cases h with | tuple _ h =>
    exact hpositioned h
  | range | aspect => cases h
  | ref address =>
    rw [at?]
    rcases h.cases_ref hd with ⟨items, hc, hs⟩ | ⟨items, hc, hs⟩ | ⟨es, hc, hs⟩ | ⟨r, hc⟩ |
      ⟨l, hc, -⟩ <;> rw [hc]
    · exact hpositioned hs
    · exact fun _ hi => nomatch hi
    · dsimp only
      split
      · refine (lookup?_gives fun e he => equal_fails hd (hs e he).1 hkey).mono ?_ fun _ h => h
        intro found hfound v hv
        obtain ⟨e, he, rfl⟩ := hfound v hv
        exact (hs e he).2
      · exact E.undefined
      · exact fun _ hi => nomatch hi
    · exact fun _ hi => nomatch hi
    · exact fun _ hi => nomatch hi
  | _ => exact fun _ hi => nomatch hi

/-- An item that is sound if it is there at all. -/
abbrev IsSoundIfAny (E : Reckoning) (σ : Shapes) (found : Option Item) : Prop :=
  ∀ i ∈ found, i.IsSound E σ

namespace IsSoundIfAny

variable {x y : Option Item}

theorem none : IsSoundIfAny E σ .none := fun _ hi => nomatch hi

theorem some (h : item.IsSound E σ) : IsSoundIfAny E σ (.some item) := by
  rintro _ ⟨⟩
  exact h

theorem ite {c : Prop} [Decidable c] (hx : IsSoundIfAny E σ x) (hy : IsSoundIfAny E σ y) :
    IsSoundIfAny E σ (if c then x else y) := by
  split <;> assumption

/-- A small number that is there. -/
theorem small {n : Nat} (h : n < 1000) : IsSoundIfAny E σ (.some (nat n)) :=
  some (.int (areWritable_of_lt (by omega)))

/-- A number that is there, of several that can be written. -/
theorem part {n : Int} {ns : List Int} (h : AreWritable E ns) (hn : n ∈ ns) :
    IsSoundIfAny E σ (.some (int n)) :=
  some (.int fun m hm => h m (List.mem_singleton.mp hm ▸ hn))

/-- A number that is there, where it is reckoned with that it is long. -/
theorem any {n : Int} (h : E.has .badValue) : IsSoundIfAny E σ (.some (int n)) :=
  some (.int fun _ _ _ => h)

end IsSoundIfAny

theorem datePart?_sound {d : Calendar.Date} (h : AreWritable E (numbersOfDate d)) (name : Text) :
    IsSoundIfAny E σ (TimeMember.datePart? name d) :=
  .ite (.part h (by simp [numbersOfDate])) <| .ite (.part h (by simp [numbersOfDate])) <|
    .ite (.part h (by simp [numbersOfDate])) .none

theorem momentPart?_sound {t : Calendar.Moment} (h : AreWritable E (numbersOfMoment t))
    (name : Text) : IsSoundIfAny E σ (TimeMember.momentPart? name t) :=
  .ite (.part h (by simp [numbersOfMoment])) <| .ite (.part h (by simp [numbersOfMoment])) <|
    .ite (.part h (by simp [numbersOfMoment])) <| .ite (.part h (by simp [numbersOfMoment])) <|
      datePart?_sound (fun n hn => h n (List.mem_append_left _ hn)) name

/-- A member that is not called is sound. -/
theorem property?_sound (hd : σ.Describes E cells) (h : item.IsSound E σ) (name : Text) :
    IsSoundIfAny E σ (property? cells item name) := by
  cases item with
  | bool b =>
    cases b <;> exact .ite (.small (by decide)) <| .ite (.small (by decide)) <|
      .ite (.small (by decide)) .none
  | int n => exact .ite (.some h) <| .ite (.small (by decide)) <| .ite (.small (by decide)) .none
  | float x => exact .ite (.some h) <| .ite (.some (.float _)) .none
  | tuple isGroup items =>
    cases h with | tuple _ h =>
    match isGroup, items, h with
    | true, [key, members], h =>
      rw [List.forall_mem_cons, List.forall_mem_singleton] at h
      exact .ite (.some h.1) <| .ite (.some h.2) .none
    | false, _, _ | true, [], _ | true, [_], _ | true, _ :: _ :: _ :: _, _ => exact .none
  | range => cases h
  | date d =>
    cases h with | date h =>
    exact datePart?_sound h name
  | moment t =>
    cases h with | moment h =>
    exact momentPart?_sound h name
  | block s depth context =>
    rw [property?]
    split
    · exact .ite (.some (.block ..)) .none
    · exact .none
  | ref address =>
    rw [property?]
    rcases h.cases_ref hd with ⟨items, hc, hs⟩ | ⟨items, hc, hs⟩ | ⟨es, hc, hs⟩ | ⟨r, hc⟩ |
      ⟨l, hc, -, hlong⟩ <;> rw [hc] <;> dsimp only
    · exact .none
    · exact .none
    · exact .none
    · refine .ite (.some ?_) <| .ite (.some (.tuple _ ?_)) <| .ite (.some (.bool _)) <|
        .ite (.some (.bool _)) <| .ite (.some (.bool _)) .none
      · split
        · exact .text _ _
        · exact .null
      · exact List.forall_mem_map.mpr fun s _ => .text false s
    · exact .ite (.any hlong) <| .ite (.any hlong) <| .ite (.some (.bool _)) <|
        .ite (.any hlong) <| .ite (.any hlong) .none
  | _ => exact .none

/-! ### Order and membership -/

theorem orderedItems_fails {ordered : Item → Item → Except Fault Bool} (c : Comparison)
    (hequal : ∀ a ∈ as, ∀ b ∈ bs, FailsAs expected (compared a b))
    (hordered : ∀ a ∈ as, ∀ b ∈ bs, FailsAs expected (ordered a b)) :
    FailsAs expected (orderedItems compared ordered c as bs) := by
  induction as generalizing bs with
  | nil => cases bs <;> trivial
  | cons a as ih =>
    cases bs with
    | nil => trivial
    | cons b bs =>
      have hrest : FailsAs expected (orderedItems compared ordered c as bs) :=
        ih (fun a ha b hb => hequal a (.tail _ ha) b (.tail _ hb))
          fun a ha b hb => hordered a (.tail _ ha) b (.tail _ hb)
      rw [orderedItems]
      split
      · exact hrest
      · refine (hequal a (.head _) b (.head _)).bind fun isEqual _ => ?_
        split
        · exact hrest
        · exact hordered a (.head _) b (.head _)

/-- Sound items can be ordered, if it is reckoned with that they are of different kinds. -/
theorem orderedWithin_fails (hunfit : E.has .unfit) (hd : σ.Describes E cells) (c : Comparison)
    (fuel : Nat) (ha : a.IsSound E σ) (hb : b.IsSound E σ) :
    FailsAs E.has (orderedWithin cells c fuel a b) := by
  induction fuel generalizing a b with
  | zero => exact E.tooDeep
  | succ fuel ih =>
    have hitems {as bs : List Item} (has : AreSound E σ as) (hbs : AreSound E σ bs) :
        FailsAs E.has (orderedItems (fun a b => equalWithin cells fuel a b)
          (fun a b => orderedWithin cells c fuel a b) c as bs) :=
      orderedItems_fails c (fun a ha b hb => equalWithin_fails hd fuel (has a ha) (hbs b hb))
        fun a ha b hb => ih (has a ha) (hbs b hb)
    have hamong {as bs : List Item} (has : AreSound E σ as) (hbs : AreSound E σ bs) :
        FailsAs E.has (as.foldlM (fun all a => do
          if all then isAmong (fun a b => equalWithin cells fuel a b) a bs else return false)
          true) :=
      allAmong_fails fun a ha b hb => equalWithin_fails hd fuel (hbs b hb) (has a ha)
    rw [orderedWithin.eq_def]
    dsimp only
    split
    · exact E.undefined
    · exact E.undefined
    · trivial
    · trivial
    · trivial
    · split
      · trivial
      · exact hunfit
    · cases ha with | tuple _ has =>
      cases hb with | tuple _ hbs =>
      exact hitems has hbs
    · split
      · next hm hn => exact hitems (ha.of_list hd hm) (hb.of_list hd hn)
      · next hm hn =>
        have has := ha.of_set hd hm
        have hbs := hb.of_set hd hn
        split
        · exact hamong has hbs
        · exact hamong hbs has
        · exact (hamong has hbs).bind fun _ _ => trivial
        · exact (hamong hbs has).bind fun _ _ => trivial
      · exact hunfit
    · split
      · trivial
      · exact hunfit

theorem ordered_fails (hunfit : E.has .unfit) (hd : σ.Describes E cells) (c : Comparison)
    (ha : a.IsSound E σ) (hb : b.IsSound E σ) : FailsAs E.has (ordered cells c a b) :=
  orderedWithin_fails hunfit hd c compareDepth ha hb

/-- Entries stay sound as another one is put where it belongs in their order. -/
theorem insertSorted_gives {less : Item → Item → Except Fault Bool} (hkey : key.IsSound E σ)
    (hitem : item.IsSound E σ) (hes : AreEntries E σ es)
    (hless : ∀ e ∈ es, FailsAs E.has (less key e.1)) :
    Gives (AreEntries E σ) E.has (insertSorted less key item es) := by
  induction es with
  | nil => exact List.forall_mem_singleton.mpr ⟨hkey, hitem⟩
  | cons e es ih =>
    obtain ⟨k, i⟩ := e
    obtain ⟨hfirst, hrest⟩ := List.forall_mem_cons.mp hes
    obtain ⟨hlessFirst, hlessRest⟩ := List.forall_mem_cons.mp hless
    rw [insertSorted]
    refine hlessFirst.bind fun isLess _ => ?_
    split
    · exact List.forall_mem_cons.mpr ⟨⟨hkey, hitem⟩, hes⟩
    · exact (ih hrest hlessRest).bind fun _ hmade => List.forall_mem_cons.mpr ⟨hfirst, hmade⟩

theorem sorted_gives {less : Item → Item → Except Fault Bool} (hes : AreEntries E σ es)
    (hless : ∀ a b, a.IsSound E σ → b.IsSound E σ → FailsAs E.has (less a b)) :
    Gives (AreEntries E σ) E.has (sorted less es) :=
  Gives.foldlM (AreEntries E σ) (List.forall_mem_nil _) fun _ hmade e he =>
    insertSorted_gives (hes e he).1 (hes e he).2 hmade fun e' he' =>
      hless _ _ (hes e he).1 (hmade e' he').1

mutual

/-- That an item cannot be a key is because something is not there, or because of its kind. -/
theorem checkKey_fails (hunfit : E.has .unfit) (cells : Array Cell) (item : Item) :
    FailsAs E.has (checkKey cells item) := by
  cases item with
  | undefined strict =>
    cases strict with
    | true => exact E.undefined
    | false => trivial
  | tuple isGroup items => exact checkKey.checkAll_fails hunfit cells items
  | ref address =>
    rw [checkKey]
    split
    · exact hunfit
    · exact hunfit
    · exact hunfit
    · trivial
  | _ => trivial

theorem checkKey.checkAll_fails (hunfit : E.has .unfit) (cells : Array Cell) (items : List Item) :
    FailsAs E.has (checkKey.checkAll cells items) := by
  cases items with
  | nil => trivial
  | cons item items =>
    exact (checkKey_fails hunfit cells item).bind fun _ _ =>
      checkKey.checkAll_fails hunfit cells items

end

/-- Whether a sound item is in another one can be told, if that one is of the right kind. -/
theorem isInside_fails (hunfit : E.has .unfit) (hd : σ.Describes E cells) (ha : a.IsSound E σ)
    (hb : b.IsSound E σ) : FailsAs E.has (isInside cells a b) := by
  have hamong {items : List Item} (h : AreSound E σ items) :
      FailsAs E.has (isAmong (equal cells) a items) :=
    isAmong_fails fun i hi => equal_fails hd (h i hi) ha
  have hcontents : FailsAs E.has (do isAmong (equal cells) a (← contents cells b).1) :=
    (contents_gives hunfit hd hb).bind fun r hr => hamong hr.1
  have hkey {items : List Item} (h : AreSound E σ items) : FailsAs E.has (do
      checkKey cells a
      isAmong (equal cells) a items) :=
    (checkKey_fails hunfit cells a).bind fun _ _ => hamong h
  rw [isInside.eq_def]
  split
  · split
    · exact E.undefined
    · trivial
  · split
    · trivial
    · exact hunfit
  · cases hb
  · split
    · next hc => exact hkey (List.forall_mem_map.mpr fun e he => (hb.of_map hd hc e he).1)
    · next hc => exact hkey (hb.of_set hd hc)
    · exact hcontents
  · exact hcontents

/-! ### Entries -/

/-- An item put under a key keeps entries sound. -/
theorem putEntry_gives (hd : σ.Describes E cells) (hkey : key.IsSound E σ)
    (hitem : item.IsSound E σ) (hes : AreEntries E σ es) :
    Gives (AreEntries E σ) E.has (putEntry cells key item es) := by
  induction es with
  | nil => exact List.forall_mem_singleton.mpr ⟨hkey, hitem⟩
  | cons e es ih =>
    obtain ⟨k, v⟩ := e
    rw [AreEntries, List.forall_mem_cons] at hes
    obtain ⟨hfirst, hrest⟩ := hes
    have hput : AreEntries E σ ((k, item) :: es) :=
      List.forall_mem_cons.mpr ⟨⟨hfirst.1, hitem⟩, hrest⟩
    rw [putEntry]
    split
    · exact hput
    · refine (equal_fails hd hfirst.1 hkey).bind fun isEqual _ => ?_
      split
      · exact hput
      · exact (ih hrest).bind fun es' hes' => List.forall_mem_cons.mpr ⟨hfirst, hes'⟩

end Item

end Template

end Scaffold
