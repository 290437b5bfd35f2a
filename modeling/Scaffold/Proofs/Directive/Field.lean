import Scaffold.Directive.Decode
import Scaffold.Proofs.Value.Entries

/-!
# Fields of a mapping

What it takes for a field to be in order is said here without the readers: which values count as a
text, a payload, a truth value or a pattern, and as which one. A field *holds* something when the
value given under it counts as that, or when none is given and that is what stands in for it. The
readers accept a field exactly when it holds something, and then they read what it holds.

## Main definitions

* `Directive.IsText`, `Directive.IsPayload`, `Directive.IsFlag`, `Directive.IsPattern` — what values
  count as
* `Directive.Field.Holds` — what a field holds
* `Directive.IsKnown` — the keys that a field accounts for

## Main results

* `Directive.Field.read_eq_ok_iff` — what is read of a field is what it holds
* `Directive.unknownKeys_eq_nil_iff` — no key is left over when all are known
-/

namespace Scaffold

namespace Directive

variable {α : Type} {v : Value} {s : Text} {b : Bool} {f : Field} {entries : List (Value × Value)}
  {step : Step} {c : Checked α} {absent : Checked α} {read : Value → Checked α}

/-! ### What values count as -/

/-- Texts count as themselves, and bytes as the text they encode. -/
inductive IsText : Value → Text → Prop
  | text (s : Text) : IsText (.text s) s
  | bytes {bytes : List UInt8} {s : Text} (h : Text.decode? bytes = some s) :
    IsText (.bytes bytes) s

/-- Nothing counts as the empty payload. Numbers and truth values count as what is written for them,
whole numbers only up to a length. -/
inductive IsPayload : Value → Text → Prop
  | null : IsPayload .null []
  | bool (b : Bool) : IsPayload (.bool b) (Value.boolText b)
  | int {n : Int} (h : n.natAbs < Decimal.tenTo mostDigits) : IsPayload (.int n) (Text.ofInt n)
  | float (x : Float) : IsPayload (.float x) (Decimal.written x)
  | text {v : Value} {s : Text} (h : IsText v s) : IsPayload v s

/-- A word for a truth value, in any letter case. -/
def IsWord (s : Text) (b : Bool) : Prop :=
  ∃ word ∈ if b then trueWords else falseWords, s.map Char.toLower = word.toList

/-- Besides truth values, words and the numbers zero and one count as truth values. -/
inductive IsFlag : Value → Bool → Prop
  | bool (b : Bool) : IsFlag (.bool b) b
  | word {s : Text} {b : Bool} (h : IsWord s b) : IsFlag (.text s) b
  | bytes {bytes : List UInt8} {s : Text} {b : Bool} (hs : Text.decode? bytes = some s)
    (h : IsWord s b) : IsFlag (.bytes bytes) b
  | int (b : Bool) : IsFlag (.int (if b then 1 else 0)) b
  | zero {x : Float} {den : Nat} (h : Decimal.fraction? x = some (0, den)) : IsFlag (.float x) false
  | one {x : Float} {den : Nat} (h : Decimal.fraction? x = some ((den : Int), den))
    (hden : den ≠ 0) : IsFlag (.float x) true

/-- A well-formed pattern counts as itself, and nothing as no pattern. -/
inductive IsPattern : Value → Option Pattern → Prop
  | null : IsPattern .null none
  | text {source : Text} {r : Pattern} (h : Pattern.compile source = .ok r) :
    IsPattern (.text source) (some r)

theorem readText_eq_ok_iff : readText v = .ok s ↔ IsText v s := by
  constructor
  · intro h
    unfold readText at h
    split at h
    · cases h
      exact .text s
    · split at h
      · cases h
        exact .bytes ‹_›
      · exact nomatch h
    · exact nomatch h
  · intro h
    cases h with
    | text s => rfl
    | bytes h => rw [readText, h]

theorem readPayload_eq_ok_iff : readPayload v = .ok s ↔ IsPayload v s := by
  constructor
  · intro h
    unfold readPayload at h
    split at h
    · cases h
      exact .null
    · split at h
      · exact nomatch h
      · cases h
        exact .int (Nat.lt_of_not_le ‹_›)
    · cases h
      exact .bool _
    · cases h
      exact .float _
    · exact .text (readText_eq_ok_iff.mp h)
  · intro h
    cases h with
    | null => rfl
    | bool b => rfl
    | int h => rw [readPayload, if_neg (Nat.not_le.mpr h)]
    | float x => rfl
    | text h =>
      cases h with
      | text s => rfl
      | bytes h => rw [readPayload, readText, h] <;> exact nofun

theorem readBoolWord_eq_ok_iff : readBoolWord s = .ok b ↔ IsWord s b := by
  have hapart : ∀ word ∈ falseWords, ∀ w ∈ trueWords, w.toList ≠ word.toList := by decide
  rw [readBoolWord, IsWord]
  constructor
  · intro h
    split at h
    · rename_i hany
      cases h
      obtain ⟨w, hw, heq⟩ := List.any_eq_true.mp hany
      exact ⟨w, hw, (of_decide_eq_true heq).symm⟩
    · split at h
      · rename_i hany
        cases h
        obtain ⟨w, hw, heq⟩ := List.any_eq_true.mp hany
        exact ⟨w, hw, (of_decide_eq_true heq).symm⟩
      · exact nomatch h
  · rintro ⟨word, hword, heq⟩
    have hany : ∀ words : List String, word ∈ words →
        (words.any fun w => decide (w.toList = word.toList)) = true := fun words hmem =>
      List.any_eq_true.mpr ⟨word, hmem, decide_eq_true rfl⟩
    rw [heq]
    cases b with
    | true => rw [if_pos (hany trueWords hword)]
    | false =>
      have hfirst : ¬(trueWords.any fun w => decide (w.toList = word.toList)) = true := by
        intro hany
        obtain ⟨w, hw, hsame⟩ := List.any_eq_true.mp hany
        exact hapart word hword w hw (of_decide_eq_true hsame)
      rw [if_neg hfirst, if_pos (hany falseWords hword)]

theorem readBoolInt_eq_ok_iff {n : Int} : readBoolInt n = .ok b ↔ n = if b then 1 else 0 := by
  unfold readBoolInt
  split
  · rename_i hzero
    subst hzero
    cases b <;> simp
  · rename_i hzero
    split
    · rename_i hone
      subst hone
      cases b <;> simp
    · cases b <;> simp_all [flaw]

/-- A fraction whose quotient is whole and a flag is that flag. -/
theorem IsFlag.of_quotient {x : Float} {num : Int} {den : Nat}
    (hx : Decimal.fraction? x = some (num, den)) (hwhole : num % den = 0)
    (hquotient : num / den = if b then 1 else 0) : IsFlag (.float x) b := by
  have hnum := Int.emod_add_mul_ediv num den
  rw [hwhole, hquotient, Int.zero_add] at hnum
  cases b with
  | false =>
    rw [if_neg Bool.false_ne_true, Int.mul_zero] at hnum
    exact .zero (hnum ▸ hx)
  | true =>
    rw [if_pos rfl, Int.mul_one] at hnum
    -- a quotient by zero is zero
    refine .one (hnum ▸ hx) fun hden => ?_
    rw [hden, if_pos rfl] at hquotient
    simp at hquotient

theorem readBool_eq_ok_iff : readBool v = .ok b ↔ IsFlag v b := by
  have hsmall : fitsWord 0 = true ∧ fitsWord 1 = true := by decide
  constructor
  · intro h
    unfold readBool at h
    split at h
    · cases h
      exact .bool b
    · exact .word (readBoolWord_eq_ok_iff.mp h)
    · split at h
      · exact .bytes ‹_› (readBoolWord_eq_ok_iff.mp h)
      · exact nomatch h
    · split at h
      · rw [readBoolInt_eq_ok_iff.mp h]
        exact .int b
      · exact nomatch h
    · split at h
      · rename_i x num den hx
        split at h
        · rename_i hwhole
          rw [Bool.and_eq_true, decide_eq_true_eq] at hwhole
          exact .of_quotient hx hwhole.1 (readBoolInt_eq_ok_iff.mp h)
        · exact nomatch h
      · exact nomatch h
    · exact nomatch h
  · intro h
    cases h with
    | bool b => rfl
    | word h => exact readBoolWord_eq_ok_iff.mpr h
    | bytes hs h =>
      rw [readBool, hs]
      exact readBoolWord_eq_ok_iff.mpr h
    | int b => cases b <;> rfl
    | zero hx =>
      rw [readBool, hx]
      simp [hsmall.1, readBoolInt]
    | @one x den hx hden =>
      have hself : (den : Int) / den = 1 := Int.ediv_self (Int.natCast_ne_zero.mpr hden)
      rw [readBool, hx]
      simp [hself, hsmall.2, readBoolInt]

/-! ### Fields -/

/-- The value given under a field. -/
def Field.given (f : Field) (entries : List (Value × Value)) : Option Value :=
  (f.find? entries).map (·.2)

/-- What a field holds: what the given value counts as, or what stands in for a value. -/
def Field.Holds (f : Field) (entries : List (Value × Value)) (counts : Value → α → Prop)
    (standIn : Option α) (a : α) : Prop :=
  match f.given entries with
  | some v => counts v a
  | none => standIn = some a

theorem Field.holds_of_given {counts : Value → α → Prop} {standIn : Option α} {a : α}
    (h : f.given entries = some v) : f.Holds entries counts standIn a ↔ counts v a := by
  rw [Field.Holds, h]

theorem Field.holds_of_not_given {counts : Value → α → Prop} {standIn : Option α} {a : α}
    (h : f.given entries = none) : f.Holds entries counts standIn a ↔ standIn = some a := by
  rw [Field.Holds, h]

theorem Checked.under_eq_ok_iff {a : α} : Checked.under step c = .ok a ↔ c = .ok a := by
  cases c <;> simp [Checked.under]

/-- **What is read of a field is what it holds.** -/
theorem Field.read_eq_ok_iff {counts : Value → α → Prop} {standIn : Option α} {a : α}
    (hread : ∀ v a, read v = .ok a ↔ counts v a)
    (habsent : ∀ a, absent = .ok a ↔ standIn = some a) :
    f.read entries absent read = .ok a ↔ f.Holds entries counts standIn a := by
  rw [Field.read, Field.Holds, Field.given]
  cases f.find? entries with
  | none => exact Checked.under_eq_ok_iff.trans (habsent a)
  | some found => exact Checked.under_eq_ok_iff.trans (hread _ a)

/-! ### Names -/

/-- The names of a field. -/
def Field.names (f : Field) : List Text := Text.of f.name :: (f.long.map Text.of).toList

theorem Field.mem_of_find? {name : Text} (h : f.find? entries = some (name, v)) :
    name ∈ f.names ∧ (.text name, v) ∈ entries := by
  unfold Field.find? at h
  split at h
  · rename_i hfound
    cases h
    exact ⟨List.mem_cons_self, Value.mem_of_lookup? hfound⟩
  · obtain ⟨long, hlong, hfound⟩ := Option.bind_eq_some_iff.mp h
    obtain ⟨w, hlookup, ⟨⟩⟩ := Option.map_eq_some_iff.mp hfound
    refine ⟨List.mem_cons_of_mem _ ?_, Value.mem_of_lookup? hlookup⟩
    rw [hlong]
    exact List.mem_singleton.mpr rfl

theorem Field.find?_eq_none_iff :
    f.find? entries = none ↔ ∀ e ∈ entries, ∀ name ∈ f.names, e.1 ≠ .text name := by
  rw [Field.find?, Field.names]
  cases hfound : Value.lookup? (.text (Text.of f.name)) entries with
  | some w =>
    refine iff_of_false nofun fun hnone => ?_
    exact hnone _ (Value.mem_of_lookup? hfound) _ List.mem_cons_self rfl
  | none =>
    have hnone := Value.lookup?_eq_none_iff.mp hfound
    cases hlong : f.long with
    | none => simpa using hnone
    | some long =>
      simp only [Option.bind_some, Option.map_eq_none_iff, Value.lookup?_eq_none_iff,
        Option.map_some, Option.toList_some, List.mem_cons, List.not_mem_nil, or_false,
        forall_eq_or_imp, forall_eq]
      exact ⟨fun h e he => ⟨hnone e he, h e he⟩, fun h e he => (h e he).2⟩

/-- A field with one name is found under that one. -/
theorem Field.find?_of_long_eq_none (h : f.long = none) (entries : List (Value × Value)) :
    f.find? entries = (f.given entries).map fun v => (Text.of f.name, v) := by
  rw [Field.given, Field.find?, h]
  cases Value.lookup? (.text (Text.of f.name)) entries <;> rfl

/-- A key that one of the fields is found under. -/
def IsKnown (fields : List Field) (entries : List (Value × Value)) (key : Value) : Prop :=
  ∃ f ∈ fields, ∃ name v, f.find? entries = some (name, v) ∧ key = .text name

theorem unknownKeys_eq_nil_iff {fields : List Field} :
    unknownKeys fields entries = [] ↔ ∀ e ∈ entries, IsKnown fields entries e.1 := by
  rw [unknownKeys, List.filterMap_eq_nil_iff]
  refine forall₂_congr fun e _ => ?_
  obtain ⟨key, w⟩ := e
  cases key with
  | text key =>
    have hused : key ∈ fields.filterMap (fun f => (f.find? entries).map (·.1)) ↔
        IsKnown fields entries (.text key) := by
      rw [List.mem_filterMap]
      refine exists_congr fun f => and_congr_right fun _ => ?_
      rw [Option.map_eq_some_iff]
      constructor
      · rintro ⟨⟨name, v⟩, hfind, rfl⟩
        exact ⟨name, v, hfind, rfl⟩
      · rintro ⟨name, v, hfind, ⟨⟩⟩
        exact ⟨(key, v), hfind, rfl⟩
    rw [← hused, ← List.contains_iff_mem]
    simp
  | _ => exact iff_of_false nofun fun ⟨_, _, _, _, _, hkey⟩ => nomatch hkey

/-! ### Flaws -/

/-- What is flawed has a flaw. -/
def Checked.IsJustified (c : Checked α) : Prop := c ≠ .error []

theorem exists_ok_of_flawsOf (hc : c.IsJustified) (h : flawsOf c = []) : ∃ a, c = .ok a := by
  cases c with
  | ok a => exact ⟨a, rfl⟩
  | error flaws => exact absurd (congrArg Except.error h) hc

theorem isJustified_ok (a : α) : Checked.IsJustified (.ok a) := nofun

theorem isJustified_flaw (kind : FlawKind) : Checked.IsJustified (flaw kind : Checked α) := nofun

theorem isJustified_readText (v : Value) : (readText v).IsJustified := by
  unfold readText
  split
  · exact nofun
  · split <;> exact nofun
  · exact nofun

theorem isJustified_readPayload (v : Value) : (readPayload v).IsJustified := by
  unfold readPayload
  split
  · exact nofun
  · split <;> exact nofun
  · exact nofun
  · exact nofun
  · exact isJustified_readText _

theorem isJustified_readBoolWord (s : Text) : (readBoolWord s).IsJustified := by
  unfold readBoolWord
  dsimp only
  split
  · exact nofun
  · split <;> exact nofun

theorem isJustified_readBoolInt (n : Int) : (readBoolInt n).IsJustified := by
  unfold readBoolInt
  split
  · exact nofun
  · split <;> exact nofun

theorem isJustified_readBool (v : Value) : (readBool v).IsJustified := by
  unfold readBool
  split
  · exact nofun
  · exact isJustified_readBoolWord _
  · split
    · exact isJustified_readBoolWord _
    · exact nofun
  · split
    · exact isJustified_readBoolInt _
    · exact nofun
  · split
    · split
      · exact isJustified_readBoolInt _
      · exact nofun
    · exact nofun
  · exact nofun

theorem Checked.IsJustified.under (h : c.IsJustified) (step : Step) :
    (Checked.under step c).IsJustified := by
  cases c with
  | ok a => exact nofun
  | error flaws =>
    intro hnil
    refine h (congrArg Except.error ?_)
    exact List.map_eq_nil_iff.mp (Except.error.inj hnil)

theorem isJustified_read (f : Field) (entries : List (Value × Value)) (habsent : absent.IsJustified)
    (hread : ∀ v, (read v).IsJustified) : (f.read entries absent read).IsJustified := by
  unfold Field.read
  split
  · exact (hread _).under _
  · exact habsent.under _

end Directive

end Scaffold
