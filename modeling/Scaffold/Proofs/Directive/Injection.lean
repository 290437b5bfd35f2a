import Mathlib.Data.List.Forall2
import Scaffold.Proofs.Directive.Decode
import Scaffold.Proofs.Directive.Field

/-!
# Decoding an injection

What comes of the entries of an injection is settled in four steps, and an earlier one leaves
nothing to a later one. A pattern that cannot be used is refused, the first one in the order in
which the fields are declared. Then everything has to be there, to count as what it is for and to be
known, or there are flaws. Then at most one placement may be set, or all that are set are named.
What is left is an injection, and its placement has a pattern exactly where its key stands for one.

## Main definitions

* `Directive.IsRefused`, `Directive.IsFirstRefusal` — patterns that cannot be used
* `Directive.IsSound` — nothing is missing, ill-typed or unknown
* `Directive.IsSet` — the fields that set a placement
* `Directive.Describes` — the injection that sound entries describe

## Main results

* `Directive.decodeInjection_outcome` — the four steps
-/

namespace Scaffold

section Except

variable {ε α β : Type} {e : ε} {step : α → Except ε β}

/-- The first fault ends a pass over a list. -/
theorem mapM_eq_error {before after : List α} {x : α} (hbefore : ∀ y ∈ before, ∃ b, step y = .ok b)
    (hx : step x = .error e) : (before ++ x :: after).mapM step = .error e := by
  induction before with
  | nil =>
    rw [List.nil_append, List.mapM_cons, hx]
    rfl
  | cons y more ih =>
    rw [List.forall_mem_cons] at hbefore
    obtain ⟨b, hb⟩ := hbefore.1
    rw [List.cons_append, List.mapM_cons, hb, ih hbefore.2]
    rfl

/-- Without a fault there is something for every item. -/
theorem exists_mapM {good : α → β → Prop} {xs : List α}
    (h : ∀ x ∈ xs, ∃ b, step x = .ok b ∧ good x b) :
    ∃ bs, xs.mapM step = .ok bs ∧ List.Forall₂ good xs bs := by
  induction xs with
  | nil => exact ⟨[], rfl, .nil⟩
  | cons x more ih =>
    rw [List.forall_mem_cons] at h
    obtain ⟨b, hb, hgood⟩ := h.1
    obtain ⟨bs, hbs, hall⟩ := ih h.2
    refine ⟨b :: bs, ?_, .cons hgood hall⟩
    rw [List.mapM_cons, hb, hbs]
    rfl

end Except

namespace Directive

variable {entries : List (Value × Value)} {f : Field} {source : Text} {reason reason' : Refusal}
  {r : Option Pattern}

/-! ### Refused patterns -/

/-- A pattern that is well formed, or else malformed: not one that is given up for its numbers or
its modes. -/
def IsJudged (source : Text) : Prop :=
  (∃ r, Pattern.compile source = .ok r) ∨ Pattern.compile source = .error .malformed

/-- The value given under a field for a pattern cannot be used as one. -/
inductive IsRefused (entries : List (Value × Value)) (f : Field) : Refusal → Prop
  | notText {v : Value} (h : f.given entries = some v) (hnull : v ≠ .null)
    (htext : ∀ source, v ≠ .text source) :
    IsRefused entries f (.patternNotText (Text.of f.name) v.kindName)
  | malformed {source : Text} (h : f.given entries = some (.text source))
    (hcompile : Pattern.compile source = .error .malformed) :
    IsRefused entries f (.patternMalformed (Text.of f.name) source)

/-- The first field, in the order of declaration, whose pattern cannot be used. -/
def IsFirstRefusal (entries : List (Value × Value)) (reason : Refusal) : Prop :=
  ∃ before f after, patternFields = before ++ f :: after ∧
    (∀ g ∈ before, ∀ reason, ¬IsRefused entries g reason) ∧ IsRefused entries f reason

theorem long_of_mem_patternFields (hf : f ∈ patternFields) : f.long = none := by
  revert f
  simp [patternFields, placementFields, skipIfField]

theorem patternUnder_of_isRefused (hf : f ∈ patternFields) (h : IsRefused entries f reason) :
    patternUnder entries f = .error (.refused reason) := by
  rw [patternUnder, Field.find?_of_long_eq_none (long_of_mem_patternFields hf)]
  cases h with
  | notText hgiven hnull htext =>
    rw [hgiven]
    simp only [Option.map_some]
    rw [readPattern]
    · rfl
    · exact hnull
    · exact fun source => htext source
  | malformed hgiven hcompile =>
    rw [hgiven]
    simp only [Option.map_some, readPattern, hcompile]
    rfl

theorem exists_patternUnder (hf : f ∈ patternFields)
    (hjudged : ∀ source, f.given entries = some (.text source) → IsJudged source)
    (hnot : ∀ reason, ¬IsRefused entries f reason) :
    ∃ r, patternUnder entries f = .ok (.ok r) ∧ f.Holds entries IsPattern (some none) r := by
  rw [patternUnder, Field.find?_of_long_eq_none (long_of_mem_patternFields hf)]
  cases hgiven : f.given entries with
  | none => exact ⟨none, rfl, (Field.holds_of_not_given hgiven).mpr rfl⟩
  | some v =>
    by_cases hnull : v = .null
    · subst hnull
      exact ⟨none, rfl, (Field.holds_of_given hgiven).mpr .null⟩
    by_cases htext : ∃ source, v = .text source
    · obtain ⟨source, rfl⟩ := htext
      rcases hjudged source hgiven with ⟨r, hcompile⟩ | hcompile
      · refine ⟨some r, ?_, (Field.holds_of_given hgiven).mpr (.text hcompile)⟩
        simp only [Option.map_some, readPattern, hcompile]
        rfl
      · exact absurd (.malformed hgiven hcompile) (hnot _)
    · exact absurd (.notText hgiven hnull fun source h => htext ⟨source, h⟩) (hnot _)

/-! ### Everything in order -/

/-- The fields that set a placement, in the order of declaration. -/
def kindFields : List Field := [prependField, appendField] ++ placementFields.map (·.1)

/-- A field sets a placement: a flag that is true, or a pattern. -/
inductive IsSet (entries : List (Value × Value)) : Field → Prop
  | prepend (h : prependField.Holds entries IsFlag (some false) true) : IsSet entries prependField
  | append (h : appendField.Holds entries IsFlag (some false) true) : IsSet entries appendField
  | pattern {f : Field} {v : Value} (hf : f ∈ placementFields.map (·.1))
    (h : f.given entries = some v) (hnull : v ≠ .null) : IsSet entries f

/-- Nothing is missing, ill-typed or unknown. -/
structure IsSound (entries : List (Value × Value)) : Prop where
  target : ∃ s, targetField.Holds entries IsText none s
  payload : ∃ s, payloadField.Holds entries IsPayload (some []) s
  inline : ∃ b, inlineField.Holds entries IsFlag (some false) b
  prepend : ∃ b, prependField.Holds entries IsFlag (some false) b
  append : ∃ b, appendField.Holds entries IsFlag (some false) b
  known : ∀ e ∈ entries, IsKnown injectionFields entries e.1

/-- The injection that entries describe: its parts are what the fields hold, its placement is that
of the field that sets one, and the pattern of the placement is the one that this field holds. -/
structure Describes (entries : List (Value × Value)) (set : List Field) (j : Injection) : Prop where
  target : targetField.Holds entries IsText none j.target
  payload : payloadField.Holds entries IsPayload (some []) j.payload
  inline : inlineField.Holds entries IsFlag (some false) j.inline
  skipIf : skipIfField.Holds entries IsPattern (some none) j.skipIf
  key : j.placement.map Placement.key = set.head?.map Field.name
  isPattern : ∀ p, j.placement = some p → (p.pattern? = none ↔ p = .prepend ∨ p = .append)
  pattern : ∀ p r, j.placement = some p → p.pattern? = some r →
    ∃ f ∈ set, f.Holds entries IsPattern (some none) (some r)

theorem placementFields_key {f : Field} {place : Pattern → Placement}
    (h : (f, place) ∈ placementFields) (r : Pattern) :
    (place r).key = f.name ∧ (place r).pattern? = some r := by
  revert h
  simp only [placementFields, List.mem_cons, Prod.mk.injEq, List.not_mem_nil, or_false]
  rintro (⟨rfl, rfl⟩ | ⟨rfl, rfl⟩ | ⟨rfl, rfl⟩ | ⟨rfl, rfl⟩ | ⟨rfl, rfl⟩ | ⟨rfl, rfl⟩ | ⟨rfl, rfl⟩ |
    ⟨rfl, rfl⟩ | ⟨rfl, rfl⟩) <;> exact ⟨rfl, rfl⟩

/-! ### The patterns are read first -/

/-- Every text for a pattern is judged. -/
def AreJudged (entries : List (Value × Value)) : Prop :=
  ∀ f ∈ patternFields, ∀ source, f.given entries = some (.text source) → IsJudged source

/-- The pattern under a field for a placement, with the placement. -/
def placementUnder (entries : List (Value × Value)) (x : Field × (Pattern → Placement)) :
    Except DecodeError ((Pattern → Placement) × Checked (Option Pattern)) := do
  return (x.2, ← patternUnder entries x.1)

/-- The injection that the entries describe when their patterns are read. -/
def settledInjection (entries : List (Value × Value)) (skipIf : Checked (Option Pattern))
    (patterns : List ((Pattern → Placement) × Checked (Option Pattern))) :
    Except DecodeError Injection :=
  let target := targetField.read entries (flaw .missing) readText
  let payload := payloadField.read entries (.ok []) readPayload
  let inline := inlineField.read entries (.ok false) readBool
  let prepend := prependField.read entries (.ok false) readBool
  let append := appendField.read entries (.ok false) readBool
  let unknown := unknownKeys injectionFields entries
  match target, payload, inline, skipIf, prepend, append, allSound patterns, unknown with
  | .ok target, .ok payload, .ok inline, .ok skipIf, .ok prepend, .ok append, .ok patterns, [] =>
    match placementsSet prepend append patterns with
    | [] => .ok ⟨target, payload, inline, skipIf, none⟩
    | [placement] => .ok ⟨target, payload, inline, skipIf, some placement⟩
    | several => .error (.refused (.overloaded target (several.map fun p => Text.of p.key)))
  | _, _, _, _, _, _, checked, _ =>
    .error (.flawed (flawsOf target ++ flawsOf payload ++ flawsOf inline ++ flawsOf skipIf ++
      flawsOf prepend ++ flawsOf append ++ flawsOf checked ++ unknown))

/-- The patterns are read before anything else is looked at. -/
theorem decodeInjection_eq (entries : List (Value × Value)) :
    decodeInjection entries = patternUnder entries skipIfField >>= fun skipIf =>
      placementFields.mapM (placementUnder entries) >>= settledInjection entries skipIf := rfl

theorem mem_patternFields {x : Field × (Pattern → Placement)} (hx : x ∈ placementFields) :
    x.1 ∈ patternFields :=
  List.mem_cons_of_mem _ (List.mem_map_of_mem hx)

theorem exists_placementUnder {x : Field × (Pattern → Placement)} (hx : x ∈ placementFields)
    (hjudged : AreJudged entries) (hnot : ∀ reason, ¬IsRefused entries x.1 reason) :
    ∃ y, placementUnder entries x = .ok y ∧
      ∃ r, y = (x.2, .ok r) ∧ x.1.Holds entries IsPattern (some none) r := by
  obtain ⟨r, hunder, hholds⟩ := exists_patternUnder (mem_patternFields hx)
    (hjudged _ (mem_patternFields hx)) hnot
  exact ⟨(x.2, .ok r), by rw [placementUnder, hunder]; rfl, r, rfl, hholds⟩

/-- A refused pattern ends the decoding, whatever else there is. -/
theorem decodeInjection_of_isFirstRefusal (hjudged : AreJudged entries)
    (h : IsFirstRefusal entries reason) : decodeInjection entries = .error (.refused reason) := by
  obtain ⟨before, f, after, hfields, hbefore, hrefused⟩ := h
  have hunder := patternUnder_of_isRefused (by rw [hfields]; simp) hrefused
  rw [decodeInjection_eq]
  cases before with
  | nil =>
    obtain ⟨rfl, -⟩ := List.cons.inj hfields
    rw [hunder]
    rfl
  | cons g more =>
    obtain ⟨rfl, hplacements⟩ := List.cons.inj hfields
    obtain ⟨r, hskip, -⟩ := exists_patternUnder List.mem_cons_self
      (hjudged _ List.mem_cons_self) (hbefore _ List.mem_cons_self)
    obtain ⟨front, rest, hfront, rfl, hrest⟩ := List.map_eq_append_iff.mp hplacements
    obtain ⟨x, back, rfl, rfl, rfl⟩ := List.map_eq_cons_iff.mp hrest
    have hread : ∀ y ∈ front, ∃ b, placementUnder entries y = .ok b := fun y hy => by
      have hmem : y ∈ placementFields := by
        rw [hfront]
        exact List.mem_append_left _ hy
      have hfirst := hbefore _ (List.mem_cons_of_mem _ (List.mem_map_of_mem hy))
      exact (exists_placementUnder hmem hjudged hfirst).imp fun _ h => h.1
    have hfault : placementUnder entries x = .error (.refused reason) := by
      rw [placementUnder, hunder]
      rfl
    have hall : placementFields.mapM (placementUnder entries) = .error (.refused reason) := by
      rw [hfront, mapM_eq_error hread hfault]
    rw [hskip, hall]
    rfl

/-- What the fields for placements hold, one after the other. -/
def AreHeld (entries : List (Value × Value)) (xs : List (Field × (Pattern → Placement)))
    (rs : List ((Pattern → Placement) × Option Pattern)) : Prop :=
  List.Forall₂ (fun x y => y.1 = x.2 ∧ x.1.Holds entries IsPattern (some none) y.2) xs rs

theorem exists_allSound {xs : List (Field × (Pattern → Placement))}
    {patterns : List ((Pattern → Placement) × Checked (Option Pattern))}
    (h : List.Forall₂ (fun x y => ∃ r, y = (x.2, .ok r) ∧
      x.1.Holds entries IsPattern (some none) r) xs patterns) :
    ∃ rs, allSound patterns = .ok rs ∧ AreHeld entries xs rs := by
  induction h with
  | nil => exact ⟨[], rfl, .nil⟩
  | @cons x _ _ _ hfirst _ ih =>
    obtain ⟨r, rfl, hholds⟩ := hfirst
    obtain ⟨rs, hrs, hheld⟩ := ih
    exact ⟨(x.2, r) :: rs, by rw [allSound, hrs]; rfl, .cons ⟨rfl, hholds⟩ hheld⟩

/-- Patterns that are not refused are all read. -/
theorem exists_patterns (hjudged : AreJudged entries)
    (hnot : ∀ f ∈ patternFields, ∀ reason, ¬IsRefused entries f reason) :
    ∃ patterns rs, placementFields.mapM (placementUnder entries) = .ok patterns ∧
      allSound patterns = .ok rs ∧ AreHeld entries placementFields rs := by
  obtain ⟨patterns, hpatterns, hall⟩ := exists_mapM fun x hx =>
    exists_placementUnder hx hjudged (hnot _ (mem_patternFields hx))
  obtain ⟨rs, hsound, hheld⟩ := exists_allSound hall
  exact ⟨patterns, rs, hpatterns, hsound, hheld⟩

/-! ### The rest of the entries -/

section Rest

variable {target payload : Text} {inline prepend append b : Bool} {skipIf : Option Pattern}
  {patterns : List ((Pattern → Placement) × Checked (Option Pattern))}
  {rs : List ((Pattern → Placement) × Option Pattern)}

theorem readTarget_iff : targetField.read entries (flaw .missing) readText = .ok target ↔
    targetField.Holds entries IsText none target :=
  Field.read_eq_ok_iff (fun _ _ => readText_eq_ok_iff) fun _ => iff_of_false nofun nofun

theorem readPayload_iff : payloadField.read entries (.ok []) readPayload = .ok payload ↔
    payloadField.Holds entries IsPayload (some []) payload :=
  Field.read_eq_ok_iff (fun _ _ => readPayload_eq_ok_iff) fun _ => by simp

theorem readFlag_iff (f : Field) : f.read entries (.ok false) readBool = .ok b ↔
    f.Holds entries IsFlag (some false) b :=
  Field.read_eq_ok_iff (fun _ _ => readBool_eq_ok_iff) fun _ => by simp

/-- Entries that are not sound have flaws. -/
theorem decodeInjection_of_not_isSound (hskip : patternUnder entries skipIfField = .ok (.ok skipIf))
    (hpatterns : placementFields.mapM (placementUnder entries) = .ok patterns)
    (hrs : allSound patterns = .ok rs) (hnot : ¬IsSound entries) :
    ∃ flaws, flaws ≠ [] ∧ decodeInjection entries = .error (.flawed flaws) := by
  rw [decodeInjection_eq, hskip, hpatterns]
  dsimp only [bind, Except.bind, settledInjection]
  rw [hrs]
  split
  · rename_i htarget hpayload hinline _ hprepend happend _ hknown
    exact absurd ⟨⟨_, readTarget_iff.mp htarget⟩, ⟨_, readPayload_iff.mp hpayload⟩,
      ⟨_, (readFlag_iff _).mp hinline⟩, ⟨_, (readFlag_iff _).mp hprepend⟩,
      ⟨_, (readFlag_iff _).mp happend⟩, unknownKeys_eq_nil_iff.mp hknown⟩ hnot
  · rename_i hflawed
    refine ⟨_, fun hnil => ?_, rfl⟩
    simp only [List.append_eq_nil_iff] at hnil
    obtain ⟨⟨⟨⟨⟨⟨⟨htarget, hpayload⟩, hinline⟩, -⟩, hprepend⟩, happend⟩, -⟩, hknown⟩ := hnil
    have hflag := fun f : Field =>
      isJustified_read f entries (isJustified_ok false) isJustified_readBool
    obtain ⟨target, htarget⟩ := exists_ok_of_flawsOf (isJustified_read _ entries
      (isJustified_flaw _) isJustified_readText) htarget
    obtain ⟨payload, hpayload⟩ := exists_ok_of_flawsOf (isJustified_read _ entries
      (isJustified_ok []) isJustified_readPayload) hpayload
    obtain ⟨inline, hinline⟩ := exists_ok_of_flawsOf (hflag _) hinline
    obtain ⟨prepend, hprepend⟩ := exists_ok_of_flawsOf (hflag _) hprepend
    obtain ⟨append, happend⟩ := exists_ok_of_flawsOf (hflag _) happend
    exact hflawed _ _ _ _ _ _ _ htarget hpayload hinline rfl hprepend happend rfl hknown

theorem decodeInjection_of_parts (hskip : patternUnder entries skipIfField = .ok (.ok skipIf))
    (hpatterns : placementFields.mapM (placementUnder entries) = .ok patterns)
    (hrs : allSound patterns = .ok rs)
    (htarget : targetField.Holds entries IsText none target)
    (hpayload : payloadField.Holds entries IsPayload (some []) payload)
    (hinline : inlineField.Holds entries IsFlag (some false) inline)
    (hprepend : prependField.Holds entries IsFlag (some false) prepend)
    (happend : appendField.Holds entries IsFlag (some false) append)
    (hknown : ∀ e ∈ entries, IsKnown injectionFields entries e.1) :
    decodeInjection entries = match placementsSet prepend append rs with
      | [] => .ok ⟨target, payload, inline, skipIf, none⟩
      | [placement] => .ok ⟨target, payload, inline, skipIf, some placement⟩
      | several => .error (.refused (.overloaded target (several.map fun p => Text.of p.key))) := by
  rw [decodeInjection_eq, hskip, hpatterns]
  dsimp only [bind, Except.bind, settledInjection]
  rw [hrs, readTarget_iff.mpr htarget, readPayload_iff.mpr hpayload, (readFlag_iff _).mpr hinline,
    (readFlag_iff _).mpr hprepend, (readFlag_iff _).mpr happend, unknownKeys_eq_nil_iff.mpr hknown]

/-! ### The placements that are set -/

/-- A placement is the one that a field sets. -/
def IsOfField (entries : List (Value × Value)) (f : Field) (p : Placement) : Prop :=
  p.key = f.name ∧ (p.pattern? = none ↔ p = .prepend ∨ p = .append) ∧
    ∀ r, p.pattern? = some r → f.Holds entries IsPattern (some none) (some r)

theorem isSome_iff_given {r : Option Pattern} (h : f.Holds entries IsPattern (some none) r) :
    r.isSome ↔ ∃ v, f.given entries = some v ∧ v ≠ .null := by
  cases hgiven : f.given entries with
  | none =>
    rw [Field.holds_of_not_given hgiven, Option.some.injEq] at h
    simp [← h]
  | some v =>
    rw [Field.holds_of_given hgiven] at h
    cases h <;> simp

/-- The fields that hold patterns, and their placements. -/
theorem exists_heldFields {xs : List (Field × (Pattern → Placement))}
    (hxs : ∀ x ∈ xs, x ∈ placementFields) (h : AreHeld entries xs rs) :
    ∃ set : List Field, set.Sublist (xs.map (·.1)) ∧
      (∀ f, f ∈ set ↔ f ∈ xs.map (·.1) ∧ ∃ v, f.given entries = some v ∧ v ≠ .null) ∧
      List.Forall₂ (IsOfField entries) set (rs.filterMap fun (place, r) => r.map place) := by
  induction h with
  | nil => exact ⟨[], .slnil, by simp, .nil⟩
  | @cons x y xs rs hfirst _ ih =>
    obtain ⟨f, place⟩ := x
    obtain ⟨place', r⟩ := y
    obtain ⟨hplace, hholds⟩ := hfirst
    dsimp only at hplace hholds
    subst hplace
    rw [List.forall_mem_cons] at hxs
    obtain ⟨set, hsub, hmem, hplaces⟩ := ih hxs.2
    have hgiven := isSome_iff_given hholds
    cases r with
    | none =>
      have hnot : ¬∃ v, f.given entries = some v ∧ v ≠ .null := fun h => nomatch hgiven.mpr h
      refine ⟨set, hsub.cons f, fun g => (hmem g).trans ?_, hplaces⟩
      rw [List.map_cons, List.mem_cons]
      refine ⟨fun h => ⟨.inr h.1, h.2⟩, fun ⟨hg, hv⟩ => ⟨hg.resolve_left ?_, hv⟩⟩
      rintro rfl
      exact hnot hv
    | some r =>
      obtain ⟨hkey, hpattern⟩ := placementFields_key hxs.1 r
      refine ⟨f :: set, hsub.cons_cons f, fun g => ?_, .cons ⟨hkey, ?_, ?_⟩ hplaces⟩
      · rw [List.mem_cons, hmem, List.map_cons, List.mem_cons, or_and_right]
        refine or_congr_left ⟨?_, fun h => h.1⟩
        rintro rfl
        exact ⟨rfl, hgiven.mp rfl⟩
      · refine iff_of_false (by rw [hpattern]; exact nofun) ?_
        rintro (heq | heq) <;> rw [heq] at hpattern <;> exact nomatch hpattern
      · intro r' hr'
        rw [hpattern] at hr'
        exact hr' ▸ hholds

theorem map_key_of_forall₂ {set : List Field} {places : List Placement}
    (h : List.Forall₂ (IsOfField entries) set places) :
    (places.map fun p => Text.of p.key) = set.map fun f => Text.of f.name := by
  induction h with
  | nil => rfl
  | cons hfirst _ ih => rw [List.map_cons, List.map_cons, ih, hfirst.1]

/-- A flag sets its placement or sets none. -/
theorem forall₂_flag {p : Placement} (h : f.name = p.key) (hnone : p.pattern? = none)
    (hp : p = .prepend ∨ p = .append) (b : Bool) :
    List.Forall₂ (IsOfField entries) (if b then [f] else []) (if b then [p] else []) := by
  cases b with
  | false => exact .nil
  | true => exact .cons ⟨h.symm, iff_of_true hnone hp, fun r hr => by simp [hnone] at hr⟩ .nil

theorem eq_of_holds_flag {b' : Bool} (h : f.Holds entries IsFlag (some false) b)
    (h' : f.Holds entries IsFlag (some false) b') : b = b' := by
  rw [← readFlag_iff] at h h'
  exact Except.ok.inj (h.symm.trans h')

/-- The fields that set a placement, and these placements, in the order of declaration. -/
theorem exists_setFields (hprepend : prependField.Holds entries IsFlag (some false) prepend)
    (happend : appendField.Holds entries IsFlag (some false) append)
    (hheld : AreHeld entries placementFields rs) :
    ∃ set : List Field, set.Sublist kindFields ∧ (∀ f, f ∈ set ↔ IsSet entries f) ∧
      List.Forall₂ (IsOfField entries) set (placementsSet prepend append rs) := by
  obtain ⟨held, hsub, hmem, hplaces⟩ := exists_heldFields (fun _ h => h) hheld
  refine ⟨((if prepend then [prependField] else []) ++
    if append then [appendField] else []) ++ held, ?_, fun f => ?_, ?_⟩
  · have hflags : ((if prepend then [prependField] else []) ++
        if append then [appendField] else []).Sublist [prependField, appendField] := by
      cases prepend <;> cases append <;> simp
    exact hflags.append hsub
  · rw [List.mem_append, List.mem_append, hmem]
    constructor
    · rintro ((hf | hf) | ⟨hf, v, hgiven, hnull⟩)
      · cases prepend with
        | false => exact nomatch hf
        | true => exact List.mem_singleton.mp hf ▸ .prepend hprepend
      · cases append with
        | false => exact nomatch hf
        | true => exact List.mem_singleton.mp hf ▸ .append happend
      · exact .pattern hf hgiven hnull
    · intro hset
      cases hset with
      | prepend h =>
        rw [eq_of_holds_flag hprepend h]
        exact .inl (.inl List.mem_cons_self)
      | append h =>
        rw [eq_of_holds_flag happend h]
        exact .inl (.inr List.mem_cons_self)
      | pattern hf hgiven hnull => exact .inr ⟨hf, _, hgiven, hnull⟩
  · exact List.rel_append (List.rel_append (forall₂_flag rfl rfl (.inl rfl) prepend)
      (forall₂_flag rfl rfl (.inr rfl) append)) hplaces

end Rest

/-! ### The outcome -/

theorem areJudged_of_forall (h : ∀ e ∈ entries, ∀ source, e.2 = .text source → IsJudged source) :
    AreJudged entries := by
  intro f _ source hgiven
  obtain ⟨⟨name, v⟩, hfind, rfl⟩ := Option.map_eq_some_iff.mp hgiven
  exact h _ (Field.mem_of_find? hfind).2 source rfl

/-- Entries with everything wrong: no target, a key that nothing accounts for, a pattern that is no
text and, behind it, one that is not closed but stands under a field that is declared earlier. -/
def unclosedEntries : List (Value × Value) :=
  [(.text (Text.of "placed"), .null), (.text (Text.of "after"), .int 3),
    (.text (Text.of "before"), .text ['('])]

end Directive

end Scaffold
