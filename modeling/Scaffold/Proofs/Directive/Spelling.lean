import Mathlib.Data.List.Forall2
import Mathlib.Data.List.Nodup
import Mathlib.Data.List.Pairwise
import Mathlib.Data.Option.Basic
import Scaffold.Proofs.Directive.Decode
import Scaffold.Proofs.Directive.Field
import Scaffold.Proofs.Directive.Injection

/-!
# Directives spelt another way

A directive is a mapping, so the order of its entries says nothing, and a field that has two names
may be given under either. The same goes for the injections that it lists. Decoding looks at the
fields in an order of its own and asks for each of them once, so as long as no field is given twice
it comes to the same: the same directive, or a refusal for the same reason, or flaws. The flaws may
be told in other words, since a flaw names the key that it is found under.

A pattern that counts too far ends the decoding without a message. It does so in either spelling.

## Main definitions

* `Directive.IsSameKey` — keys that the same field accounts for
* `Directive.AreRespelt`, `Directive.SameEntry` — entries in another order and under other names
* `Directive.IsUnambiguous` — no field is given twice
* `Directive.Agree` — what the decodings of two spellings have in common

## Main results

* `Directive.AreRespelt.given_rel` — what a field is given under another spelling
* `Directive.decodeInjection_congr` — an injection spelt another way
* `Directive.decode_respelt` — a directive spelt another way
-/

namespace Scaffold

theorem countP_eq_of_forall₂ {α β : Type} {p : α → Bool} {q : β → Bool} {xs : List α} {ys : List β}
    (h : List.Forall₂ (fun a b => p a = q b) xs ys) : xs.countP p = ys.countP q := by
  induction h with
  | nil => rfl
  | cons hfirst _ ih => rw [List.countP_cons, List.countP_cons, ih, hfirst]

theorem exists_mem_of_forall₂ {α β : Type} {rel : α → β → Prop} {xs : List α} {ys : List β}
    (h : List.Forall₂ rel xs ys) :
    (∀ x ∈ xs, ∃ y ∈ ys, rel x y) ∧ ∀ y ∈ ys, ∃ x ∈ xs, rel x y := by
  induction h with
  | nil => exact ⟨nofun, nofun⟩
  | @cons x y xs ys hfirst _ ih =>
    simp only [List.forall_mem_cons, List.exists_mem_cons_iff]
    exact ⟨⟨.inl hfirst, fun x hx => .inr (ih.1 x hx)⟩, .inl hfirst, fun y hy => .inr (ih.2 y hy)⟩

theorem eq_of_countP_le_one {α : Type} {p : α → Bool} {xs : List α} {a b : α}
    (hone : xs.countP p ≤ 1) (ha : a ∈ xs) (hpa : p a) (hb : b ∈ xs) (hpb : p b) : a = b := by
  have hmem : a ∈ xs.filter p ∧ b ∈ xs.filter p :=
    ⟨List.mem_filter.mpr ⟨ha, hpa⟩, List.mem_filter.mpr ⟨hb, hpb⟩⟩
  rw [List.countP_eq_length_filter] at hone
  match xs.filter p, hone, hmem with
  | [x], _, ⟨ha, hb⟩ => rw [List.mem_singleton.mp ha, List.mem_singleton.mp hb]

theorem eq_of_rel_eq {α : Type} {a b : Option α} (h : Option.Rel (· = ·) a b) : a = b := by
  cases h with
  | some h => rw [h]
  | none => rfl

theorem mapM_congr {ε α β : Type} {step step' : α → Except ε β} {xs : List α}
    (h : ∀ x ∈ xs, step x = step' x) : xs.mapM step = xs.mapM step' := by
  induction xs with
  | nil => rfl
  | cons x xs ih =>
    rw [List.forall_mem_cons] at h
    rw [List.mapM_cons, List.mapM_cons, h.1, ih h.2]

namespace Directive

variable {fields : List Field} {f g : Field} {k k' v v' : Value} {es es' : List (Value × Value)}
  {e e' : Value × Value} {same : Value × Value → Value × Value → Prop}

/-! ### Spellings -/

/-- Whether a key is one of the names of a field. -/
def Field.isName (f : Field) : Value → Bool
  | .text name => f.names.contains name
  | _ => false

/-- The same key, or another name of the same field. -/
def IsSameKey (fields : List Field) (k k' : Value) : Prop :=
  k = k' ∨ ∃ f ∈ fields, f.isName k ∧ f.isName k'

/-- Entries in another order, each of them the same as before. -/
def AreRespelt (same : Value × Value → Value × Value → Prop)
    (es es' : List (Value × Value)) : Prop :=
  ∃ mid, es.Perm mid ∧ List.Forall₂ same mid es'

/-- No field is given twice, under one of its names or under two. -/
def IsUnambiguous (fields : List Field) (es : List (Value × Value)) : Prop :=
  ∀ f ∈ fields, es.countP (fun e => f.isName e.1) ≤ 1

/-- An entry of an injection under the same key, or under another name of its field. -/
def SameInjectionEntry (e e' : Value × Value) : Prop :=
  IsSameKey injectionFields e.1 e'.1 ∧ e.2 = e'.2

/-- An item of a list, which may be an injection spelt another way. -/
inductive SameItem : Value → Value → Prop
  | same (v : Value) : SameItem v v
  | injection {label label' : Option Nat} {es es' : List (Value × Value)}
    (h : AreRespelt SameInjectionEntry es es') : SameItem (.map label es) (.map label' es')

/-- A list of injections, each of which may be spelt another way. -/
inductive SameList : Value → Value → Prop
  | list {items items' : List Value} (h : List.Forall₂ SameItem items items') :
    SameList (.list items) (.list items')
  | tuple {items items' : List Value} (h : List.Forall₂ SameItem items items') :
    SameList (.tuple items) (.tuple items')

/-- An entry of a directive under the same key, or under another name of its field. The injections
may be spelt another way. -/
def SameEntry (e e' : Value × Value) : Prop :=
  IsSameKey directiveFields e.1 e'.1 ∧
    (e.2 = e'.2 ∨ injectionsField.isName e.1 ∧ SameList e.2 e'.2)

theorem Field.isName_iff : f.isName k ↔ ∃ name ∈ f.names, k = .text name := by
  cases k with
  | text name => simp [Field.isName]
  | _ => simp [Field.isName]

/-- Names tell fields apart. -/
theorem eq_of_isName (hnames : (fields.flatMap Field.names).Nodup) (hf : f ∈ fields)
    (hg : g ∈ fields) (hfk : f.isName k) (hgk : g.isName k) : f = g := by
  obtain ⟨name, hname, rfl⟩ := Field.isName_iff.mp hfk
  obtain ⟨name', hname', heq⟩ := Field.isName_iff.mp hgk
  obtain rfl : name = name' := Value.text.inj heq
  by_contra hne
  have hsymm : Std.Symm (Function.onFun List.Disjoint Field.names) :=
    ⟨fun _ _ h _ hname hname' => h hname' hname⟩
  exact (List.nodup_flatMap.mp hnames).2.forall hf hg hne hname hname'

theorem IsSameKey.isName_eq (h : IsSameKey fields k k')
    (hnames : (fields.flatMap Field.names).Nodup) (hf : f ∈ fields) : f.isName k = f.isName k' := by
  rcases h with rfl | ⟨g, hg, hgk, hgk'⟩
  · rfl
  · rw [Bool.eq_iff_iff]
    constructor
    · intro hfk
      exact eq_of_isName hnames hf hg hfk hgk ▸ hgk'
    · intro hfk'
      exact eq_of_isName hnames hf hg hfk' hgk' ▸ hgk

theorem nodup_names_injectionFields : (injectionFields.flatMap Field.names).Nodup := by
  decide +kernel

theorem nodup_names_directiveFields : (directiveFields.flatMap Field.names).Nodup := by
  decide +kernel

/-! ### What is given -/

/-- The value given under a field, when it is given once. -/
theorem Field.find?_eq_some_iff {name : Text} (hone : es.countP (fun e => f.isName e.1) ≤ 1) :
    f.find? es = some (name, v) ↔ name ∈ f.names ∧ (.text name, v) ∈ es := by
  refine ⟨Field.mem_of_find?, fun ⟨hname, hmem⟩ => ?_⟩
  cases hfind : f.find? es with
  | none => exact absurd rfl (Field.find?_eq_none_iff.mp hfind _ hmem _ hname)
  | some found =>
    obtain ⟨name', v'⟩ := found
    obtain ⟨hname', hmem'⟩ := Field.mem_of_find? hfind
    have heq := eq_of_countP_le_one hone hmem' (Field.isName_iff.mpr ⟨_, hname', rfl⟩) hmem
      (Field.isName_iff.mpr ⟨_, hname, rfl⟩)
    obtain ⟨hkey, hvalue⟩ := Prod.mk.inj heq
    rw [← Value.text.inj hkey, ← hvalue]

theorem Field.given_eq_some_iff (hone : es.countP (fun e => f.isName e.1) ≤ 1) :
    f.given es = some v ↔ ∃ e ∈ es, f.isName e.1 ∧ e.2 = v := by
  rw [Field.given, Option.map_eq_some_iff]
  constructor
  · rintro ⟨⟨name, w⟩, hfind, rfl⟩
    obtain ⟨hname, hmem⟩ := (Field.find?_eq_some_iff hone).mp hfind
    exact ⟨_, hmem, Field.isName_iff.mpr ⟨name, hname, rfl⟩, rfl⟩
  · rintro ⟨⟨key, w⟩, hmem, hkey, rfl⟩
    obtain ⟨name, hname, rfl⟩ := Field.isName_iff.mp hkey
    exact ⟨(name, w), (Field.find?_eq_some_iff hone).mpr ⟨hname, hmem⟩, rfl⟩

/-- All keys are known when all are names of fields. -/
theorem unknownKeys_eq_nil_iff_isName (hone : IsUnambiguous fields es) :
    unknownKeys fields es = [] ↔ ∀ e ∈ es, ∃ f ∈ fields, f.isName e.1 := by
  rw [unknownKeys_eq_nil_iff]
  refine forall₂_congr fun e he => exists_congr fun f => and_congr_right fun hf => ?_
  rw [Field.isName_iff]
  constructor
  · rintro ⟨name, v, hfind, hkey⟩
    exact ⟨name, (Field.mem_of_find? hfind).1, hkey⟩
  · rintro ⟨name, hname, hkey⟩
    exact ⟨name, e.2, (Field.find?_eq_some_iff (hone f hf)).mpr ⟨hname, hkey ▸ he⟩, hkey⟩

section Respelt

variable (h : AreRespelt same es es')
include h

theorem AreRespelt.countP_eq (hname : ∀ e e', same e e' → f.isName e.1 = f.isName e'.1) :
    es.countP (fun e => f.isName e.1) = es'.countP fun e => f.isName e.1 := by
  obtain ⟨mid, hperm, hsame⟩ := h
  rw [hperm.countP_eq]
  exact countP_eq_of_forall₂ (hsame.imp hname)

theorem AreRespelt.exists_of_mem (he : e ∈ es) : ∃ e' ∈ es', same e e' := by
  obtain ⟨mid, hperm, hsame⟩ := h
  exact (exists_mem_of_forall₂ hsame).1 e (hperm.mem_iff.mp he)

theorem AreRespelt.exists_of_mem_right (he : e' ∈ es') : ∃ e ∈ es, same e e' := by
  obtain ⟨mid, hperm, hsame⟩ := h
  obtain ⟨e, hmem, hsame⟩ := (exists_mem_of_forall₂ hsame).2 e' he
  exact ⟨e, hperm.mem_iff.mpr hmem, hsame⟩

/-- A field is given the same under another spelling. -/
theorem AreRespelt.given_rel {rel : Value → Value → Prop}
    (hone : es.countP (fun e => f.isName e.1) ≤ 1)
    (hname : ∀ e e', same e e' → f.isName e.1 = f.isName e'.1)
    (hrel : ∀ e e', same e e' → f.isName e.1 → rel e.2 e'.2) :
    Option.Rel rel (f.given es) (f.given es') := by
  have hone' := h.countP_eq hname ▸ hone
  cases hgiven : f.given es with
  | some v =>
    obtain ⟨e, he, hkey, rfl⟩ := (Field.given_eq_some_iff hone).mp hgiven
    obtain ⟨e', he', hsame⟩ := h.exists_of_mem he
    rw [(Field.given_eq_some_iff hone').mpr ⟨e', he', hname e e' hsame ▸ hkey, rfl⟩]
    exact .some (hrel e e' hsame hkey)
  | none =>
    cases hgiven' : f.given es' with
    | none => exact .none
    | some v' =>
      obtain ⟨e', he', hkey, rfl⟩ := (Field.given_eq_some_iff hone').mp hgiven'
      obtain ⟨e, he, hsame⟩ := h.exists_of_mem_right he'
      have hgiven'' := (Field.given_eq_some_iff hone).mpr ⟨e, he, hname e e' hsame ▸ hkey, rfl⟩
      exact nomatch hgiven.symm.trans hgiven''

theorem AreRespelt.unknownKeys_iff (hone : IsUnambiguous fields es)
    (hname : ∀ f ∈ fields, ∀ e e', same e e' → f.isName e.1 = f.isName e'.1) :
    unknownKeys fields es = [] ↔ unknownKeys fields es' = [] := by
  have hone' : IsUnambiguous fields es' := fun f hf => h.countP_eq (hname f hf) ▸ hone f hf
  rw [unknownKeys_eq_nil_iff_isName hone, unknownKeys_eq_nil_iff_isName hone']
  constructor
  · intro hall e' he'
    obtain ⟨e, he, hsame⟩ := h.exists_of_mem_right he'
    obtain ⟨f, hf, hkey⟩ := hall e he
    exact ⟨f, hf, hname f hf e e' hsame ▸ hkey⟩
  · intro hall e he
    obtain ⟨e', he', hsame⟩ := h.exists_of_mem he
    obtain ⟨f, hf, hkey⟩ := hall e' he'
    exact ⟨f, hf, hname f hf e e' hsame ▸ hkey⟩

end Respelt

/-! ### What two decodings have in common -/

/-- Parts that are both in order and the same, or are both flawed. -/
inductive Checked.Alike {α : Type} : Checked α → Checked α → Prop
  | ok (a : α) : Alike (.ok a) (.ok a)
  | error (flaws flaws' : List Flaw) : Alike (.error flaws) (.error flaws')

/-- Decodings that come to the same, or both to flaws. -/
inductive Agree {α : Type} : Except DecodeError α → Except DecodeError α → Prop
  | same (r : Except DecodeError α) : Agree r r
  | flawed (flaws flaws' : List Flaw) : Agree (.error (.flawed flaws)) (.error (.flawed flaws'))

/-- Decodings of parts that end the same way, or leave parts that are alike. -/
inductive AgreeWithin {α : Type} :
    Except DecodeError (Checked α) → Except DecodeError (Checked α) → Prop
  | ended (e : DecodeError) : AgreeWithin (.error e) (.error e)
  | read {c c' : Checked α} (h : c.Alike c') : AgreeWithin (.ok c) (.ok c')

section Alike

variable {α β : Type} {a : α} {c c' : Checked α} {r r' : Except DecodeError (Checked α)}

theorem Checked.Alike.refl (c : Checked α) : c.Alike c := by
  cases c with
  | ok a => exact .ok a
  | error flaws => exact .error flaws flaws

theorem Checked.Alike.eq_ok_iff (h : c.Alike c') : c = .ok a ↔ c' = .ok a := by
  cases h with
  | ok a => rfl
  | error flaws flaws' => exact iff_of_false nofun nofun

theorem Checked.Alike.under (h : c.Alike c') (step step' : Step) :
    (Checked.under step c).Alike (Checked.under step' c') := by
  cases h with
  | ok a => exact .ok a
  | error flaws flaws' => exact .error _ _

theorem AgreeWithin.refl (r : Except DecodeError (Checked α)) : AgreeWithin r r := by
  cases r with
  | ok c => exact .read (.refl c)
  | error e => exact .ended e

theorem AgreeWithin.bind {next next' : Checked α → Except DecodeError β} (h : AgreeWithin r r')
    (hnext : ∀ c c', c.Alike c' → Agree (next c) (next' c')) :
    Agree (r >>= next) (r' >>= next') := by
  cases h with
  | ended e => exact .same _
  | read h => exact hnext _ _ h

theorem AgreeWithin.bindWithin {next next' : Checked α → Except DecodeError (Checked β)}
    (h : AgreeWithin r r') (hnext : ∀ c c', c.Alike c' → AgreeWithin (next c) (next' c')) :
    AgreeWithin (r >>= next) (r' >>= next') := by
  cases h with
  | ended e => exact .ended e
  | read h => exact hnext _ _ h

theorem AgreeWithin.map {g g' : Checked α → Checked β} (h : AgreeWithin r r')
    (hg : ∀ c c', c.Alike c' → (g c).Alike (g' c')) : AgreeWithin (r.map g) (r'.map g') := by
  cases h with
  | ended e => exact .ended e
  | read h => exact .read (hg _ _ h)

/-- What is read of a field depends on what it is given. -/
theorem Field.read_alike {absent : Checked α} {read : Value → Checked α}
    (h : f.given es = f.given es') : (f.read es absent read).Alike (f.read es' absent read) := by
  rw [Field.given, Field.given] at h
  rw [Field.read, Field.read]
  cases hfind : f.find? es with
  | none =>
    rw [hfind, Option.map_none, eq_comm, Option.map_eq_none_iff] at h
    rw [h]
    exact .refl _
  | some found =>
    rw [hfind, Option.map_some, eq_comm, Option.map_eq_some_iff] at h
    obtain ⟨found', hfind', heq⟩ := h
    rw [hfind']
    dsimp only
    rw [heq]
    exact (Checked.Alike.refl _).under _ _

end Alike

/-! ### Injections -/

section Injections

variable {items items' : List Value}

theorem SameInjectionEntry.isName_eq (h : SameInjectionEntry e e') (hf : f ∈ injectionFields) :
    f.isName e.1 = f.isName e'.1 :=
  h.1.isName_eq nodup_names_injectionFields hf

theorem mem_injectionFields (hf : f ∈ patternFields) : f ∈ injectionFields := by
  rcases List.mem_cons.mp hf with rfl | hf
  · simp [injectionFields]
  · exact List.mem_append_right _ hf

section Respelt

variable (h : AreRespelt SameInjectionEntry es es') (hone : IsUnambiguous injectionFields es)
include h hone

theorem given_eq_of_areRespelt (hf : f ∈ injectionFields) : f.given es = f.given es' :=
  eq_of_rel_eq <| h.given_rel (hone f hf) (fun _ _ hsame => hsame.isName_eq hf)
    fun _ _ hsame _ => hsame.2

theorem patternUnder_eq_of_areRespelt (hf : f ∈ patternFields) :
    patternUnder es f = patternUnder es' f := by
  have hlong := long_of_mem_patternFields hf
  rw [patternUnder, patternUnder, Field.find?_of_long_eq_none hlong,
    Field.find?_of_long_eq_none hlong, given_eq_of_areRespelt h hone (mem_injectionFields hf)]

theorem settledInjection_congr (skipIf : Checked (Option Pattern))
    (patterns : List ((Pattern → Placement) × Checked (Option Pattern))) :
    Agree (settledInjection es skipIf patterns) (settledInjection es' skipIf patterns) := by
  have hread : ∀ {α : Type} {f : Field} {absent : Checked α} {read : Value → Checked α} {a : α},
      f ∈ injectionFields → (f.read es absent read = .ok a ↔ f.read es' absent read = .ok a) :=
    fun hf => (Field.read_alike (given_eq_of_areRespelt h hone hf)).eq_ok_iff
  have hmem : targetField ∈ injectionFields ∧ payloadField ∈ injectionFields ∧
      inlineField ∈ injectionFields ∧ prependField ∈ injectionFields ∧
      appendField ∈ injectionFields := by simp [injectionFields]
  obtain ⟨htarget, hpayload, hinline, hprepend, happend⟩ := hmem
  have hknown := h.unknownKeys_iff hone fun f hf _ _ hsame => hsame.isName_eq hf
  unfold settledInjection
  dsimp only
  split
  · rename_i htargetOk hpayloadOk hinlineOk hprependOk happendOk hpatternsOk hnil
    rw [(hread htarget).mp htargetOk, (hread hpayload).mp hpayloadOk,
      (hread hinline).mp hinlineOk, (hread hprepend).mp hprependOk,
      (hread happend).mp happendOk, hpatternsOk, hknown.mp hnil]
    exact .same _
  · rename_i hflawed
    split
    · rename_i htargetOk hpayloadOk hinlineOk hprependOk happendOk hpatternsOk hnil
      exact (hflawed _ _ _ _ _ _ _ ((hread htarget).mpr htargetOk)
        ((hread hpayload).mpr hpayloadOk) ((hread hinline).mpr hinlineOk) rfl
        ((hread hprepend).mpr hprependOk) ((hread happend).mpr happendOk) hpatternsOk
        (hknown.mpr hnil)).elim
    · exact .flawed _ _

/-- **The decoding of an injection** does not depend on its spelling. -/
theorem decodeInjection_congr : Agree (decodeInjection es) (decodeInjection es') := by
  have hpattern := fun {f : Field} => patternUnder_eq_of_areRespelt (f := f) h hone
  have hplacements :
      placementFields.mapM (placementUnder es) = placementFields.mapM (placementUnder es') := by
    refine mapM_congr fun x hx => ?_
    rw [placementUnder, placementUnder, hpattern (mem_patternFields hx)]
  rw [decodeInjection_eq, decodeInjection_eq, hpattern List.mem_cons_self, hplacements]
  cases patternUnder es' skipIfField with
  | error e => exact .same _
  | ok skipIf =>
    cases placementFields.mapM (placementUnder es') with
    | error e => exact .same _
    | ok patterns => exact settledInjection_congr h hone skipIf patterns

end Respelt

/-- The injection that an item of a list describes. -/
def decodeItem : Value → Except DecodeError (Checked Injection)
  | .map _ es => match decodeInjection es with
    | .ok j => .ok (.ok j)
    | .error (.flawed flaws) => .ok (.error flaws)
    | .error e => .error e
  | _ => .ok (flaw .notMapping)

/-- The injection of an item with an index, and those behind it. -/
def joined (i : Nat) : Checked Injection → Checked (List Injection) → Checked (List Injection)
  | .ok j, .ok js => .ok (j :: js)
  | first, more => .error (flawsOf (Checked.under (.index i) first) ++ flawsOf more)

theorem decodeInjections_cons (i : Nat) (v : Value) (rest : List Value) :
    decodeInjections i (v :: rest) = decodeItem v >>= fun first =>
      decodeInjections (i + 1) rest >>= fun more => .ok (joined i first more) := by
  have hjoined : ∀ first : Checked Injection, (decodeInjections (i + 1) rest >>= fun more =>
      match first, more with
      | .ok j, .ok js => return .ok (j :: js)
      | first, more => return .error (flawsOf (Checked.under (.index i) first) ++ flawsOf more)) =
        decodeInjections (i + 1) rest >>= fun more => .ok (joined i first more) := fun first =>
    bind_congr fun more => by cases first <;> cases more <;> rfl
  conv_lhs => unfold decodeInjections
  dsimp only
  split
  · rename_i label es
    rw [decodeItem]
    cases decodeInjection es with
    | ok j => exact hjoined (.ok j)
    | error e =>
      cases e with
      | flawed flaws => exact hjoined (.error flaws)
      | _ => rfl
  · rename_i hmap
    rw [decodeItem.eq_2 v hmap]
    exact hjoined (flaw .notMapping)

theorem joined_alike {i : Nat} {first first' : Checked Injection}
    {more more' : Checked (List Injection)} (hfirst : first.Alike first')
    (hmore : more.Alike more') : (joined i first more).Alike (joined i first' more') := by
  cases hfirst with
  | ok j =>
    cases hmore with
    | ok js => exact .ok _
    | error flaws flaws' => exact .error _ _
  | error flaws flaws' =>
    cases hmore with
    | ok js => exact .error _ _
    | error flaws flaws' => exact .error _ _

/-- The injections of a list that can be told apart field by field. -/
def AreUnambiguous (items : List Value) : Prop :=
  ∀ label es, .map label es ∈ items → IsUnambiguous injectionFields es

theorem decodeItem_congr (h : SameItem v v')
    (hone : ∀ label es, v = .map label es → IsUnambiguous injectionFields es) :
    AgreeWithin (decodeItem v) (decodeItem v') := by
  cases h with
  | same v => exact .refl _
  | @injection label label' es es' h =>
    rw [decodeItem, decodeItem]
    have hagree := decodeInjection_congr h (hone _ _ rfl)
    revert hagree
    generalize decodeInjection es = r
    generalize decodeInjection es' = r'
    intro hagree
    cases hagree with
    | same r => exact .refl _
    | flawed flaws flaws' => exact .read (.error _ _)

/-- The decoding of injections does not depend on their spelling. -/
theorem decodeInjections_congr (h : List.Forall₂ SameItem items items')
    (hone : AreUnambiguous items) (i : Nat) :
    AgreeWithin (decodeInjections i items) (decodeInjections i items') := by
  induction h generalizing i with
  | nil => exact .refl _
  | cons hfirst _ ih =>
    have hitem := decodeItem_congr hfirst fun label es hv => hone label es (hv ▸ List.mem_cons_self)
    have hrest := ih (fun label es hmem => hone label es (List.mem_cons_of_mem _ hmem)) (i + 1)
    rw [decodeInjections_cons, decodeInjections_cons]
    exact hitem.bindWithin fun _ _ hfirst => hrest.bindWithin fun _ _ hmore =>
      .read (joined_alike hfirst hmore)

end Injections

/-! ### Directives -/

section Directives

variable {entries entries' : List (Value × Value)}

/-- The entries of an injection that the entries of a directive list. -/
def ListsInjection (entries : List (Value × Value)) (es : List (Value × Value)) : Prop :=
  ∃ listed items label, injectionsField.given entries = some listed ∧
    injectionItems listed = .ok items ∧ .map label es ∈ items

/-- The same list, or one with injections that are spelt another way. -/
def SameListed (v v' : Value) : Prop := v = v' ∨ SameList v v'

/-- The injections under their field, by what it is given. -/
def injectionsGiven : Option Value → Except DecodeError (Checked (List Injection))
  | none => .ok (.ok [])
  | some listed => match injectionItems listed with
    | .ok items => (decodeInjections 0 items).map (Checked.under (.key (Text.of "injections")))
    | .error flaws => .ok (Checked.under (.key (Text.of "injections")) (.error flaws))

/-- The directive that entries describe when their injections are read. -/
def settled (entries : List (Value × Value)) (injections : Checked (List Injection)) :
    Except DecodeError Directive :=
  let target := toField.read entries (flaw .missing) readText
  let skipIfExists := skipExistsField.read entries (.ok false) readBool
  let skipIfGlob := skipGlobField.read entries (.ok none) readOptionalText
  let message := messageField.read entries (.ok none) readOptionalText
  let unknown := unknownKeys directiveFields entries
  match target, skipIfExists, skipIfGlob, message, injections, unknown with
  | .ok target, .ok skipIfExists, .ok skipIfGlob, .ok message, .ok injections, [] =>
    .ok ⟨target, skipIfExists, skipIfGlob, message, injections⟩
  | _, _, _, _, _, _ =>
    .error (.flawed (flawsOf target ++ flawsOf skipIfExists ++ flawsOf skipIfGlob ++
      flawsOf message ++ flawsOf injections ++ unknown))

theorem decode_eq (entries : List (Value × Value)) :
    decode entries = injectionsGiven (injectionsField.given entries) >>= settled entries := by
  have hread : injectionsField.read entries (.ok []) injectionItems =
      match injectionsField.given entries with
      | none => .ok []
      | some listed => Checked.under (.key (Text.of "injections")) (injectionItems listed) := by
    rw [Field.read, Field.find?_of_long_eq_none rfl]
    cases injectionsField.given entries <;> rfl
  rw [decode]
  dsimp only
  rw [hread]
  cases injectionsField.given entries with
  | none => rfl
  | some listed =>
    dsimp only [injectionsGiven]
    cases injectionItems listed <;> rfl

theorem exists_injectionItems (h : SameListed v v') :
    (∃ items items', injectionItems v = .ok items ∧ injectionItems v' = .ok items' ∧
      List.Forall₂ SameItem items items') ∨
    ∃ flaws flaws', injectionItems v = .error flaws ∧ injectionItems v' = .error flaws' := by
  rcases h with rfl | h
  · cases h : injectionItems v with
    | ok items => exact .inl ⟨items, items, rfl, rfl, List.forall₂_same.mpr fun v _ => .same v⟩
    | error flaws => exact .inr ⟨flaws, flaws, rfl, rfl⟩
  · cases h with
    | list h => exact .inl ⟨_, _, rfl, rfl, h⟩
    | tuple h => exact .inl ⟨_, _, rfl, rfl, h⟩

theorem injectionsGiven_congr {listed listed' : Option Value}
    (h : Option.Rel SameListed listed listed')
    (hone : ∀ v items, listed = some v → injectionItems v = .ok items → AreUnambiguous items) :
    AgreeWithin (injectionsGiven listed) (injectionsGiven listed') := by
  cases h with
  | none => exact .refl _
  | @some v v' h =>
    rw [injectionsGiven, injectionsGiven]
    rcases exists_injectionItems h with ⟨items, items', hitems, hitems', hsame⟩ |
      ⟨flaws, flaws', hflaws, hflaws'⟩
    · rw [hitems, hitems']
      exact (decodeInjections_congr hsame (hone v items rfl hitems) 0).map fun _ _ h => h.under _ _
    · rw [hflaws, hflaws']
      exact .read (.error _ _)

theorem SameEntry.isName_eq (h : SameEntry e e') (hf : f ∈ directiveFields) :
    f.isName e.1 = f.isName e'.1 :=
  h.1.isName_eq nodup_names_directiveFields hf

theorem SameEntry.eq_of_ne (h : SameEntry e e') (hf : f ∈ directiveFields)
    (hne : f.name ≠ injectionsField.name) (hname : f.isName e.1) : e.2 = e'.2 := by
  refine h.2.resolve_right fun hother => hne (congrArg Field.name ?_)
  exact eq_of_isName nodup_names_directiveFields hf (by simp [directiveFields]) hname hother.1

theorem settled_congr {c c' : Checked (List Injection)} (h : AreRespelt SameEntry entries entries')
    (hone : IsUnambiguous directiveFields entries) (halike : c.Alike c') :
    Agree (settled entries c) (settled entries' c') := by
  have hread : ∀ {α : Type} {f : Field} {absent : Checked α} {read : Value → Checked α} {a : α},
      f ∈ directiveFields ∧ f.name ≠ injectionsField.name →
      (f.read entries absent read = .ok a ↔ f.read entries' absent read = .ok a) := by
    rintro α f absent read a ⟨hf, hne⟩
    refine (Field.read_alike (eq_of_rel_eq ?_)).eq_ok_iff
    exact h.given_rel (hone f hf) (fun _ _ hsame => hsame.isName_eq hf) fun _ _ hsame =>
      hsame.eq_of_ne hf hne
  have hto : toField ∈ directiveFields ∧ toField.name ≠ injectionsField.name := by
    simp [directiveFields, toField, injectionsField]
  have hexists : skipExistsField ∈ directiveFields ∧
      skipExistsField.name ≠ injectionsField.name := by
    simp [directiveFields, skipExistsField, injectionsField]
  have hglob : skipGlobField ∈ directiveFields ∧ skipGlobField.name ≠ injectionsField.name := by
    simp [directiveFields, skipGlobField, injectionsField]
  have hmessage : messageField ∈ directiveFields ∧ messageField.name ≠ injectionsField.name := by
    simp [directiveFields, messageField, injectionsField]
  have hknown := h.unknownKeys_iff hone fun f hf _ _ hsame => hsame.isName_eq hf
  unfold settled
  dsimp only
  split
  · rename_i htoOk hexistsOk hglobOk hmessageOk hnil
    rw [(hread hto).mp htoOk, (hread hexists).mp hexistsOk, (hread hglob).mp hglobOk,
      (hread hmessage).mp hmessageOk, halike.eq_ok_iff.mp rfl, hknown.mp hnil]
    exact .same _
  · rename_i hflawed
    split
    · rename_i htoOk hexistsOk hglobOk hmessageOk hnil
      exact (hflawed _ _ _ _ _ ((hread hto).mpr htoOk) ((hread hexists).mpr hexistsOk)
        ((hread hglob).mpr hglobOk) ((hread hmessage).mpr hmessageOk)
        (halike.eq_ok_iff.mpr rfl) (hknown.mpr hnil)).elim
    · exact .flawed _ _

/-- The decoding of a directive does not depend on its spelling. -/
theorem decode_congr (h : AreRespelt SameEntry entries entries')
    (hone : IsUnambiguous directiveFields entries)
    (hlisted : ∀ es, ListsInjection entries es → IsUnambiguous injectionFields es) :
    Agree (decode entries) (decode entries') := by
  have hmem : injectionsField ∈ directiveFields := by simp [directiveFields]
  have hgiven : Option.Rel SameListed (injectionsField.given entries)
      (injectionsField.given entries') :=
    h.given_rel (hone _ hmem) (fun _ _ hsame => hsame.isName_eq hmem)
      fun _ _ hsame _ => hsame.2.imp_right (·.2)
  have hwithin := injectionsGiven_congr hgiven fun v items hv hitems label es hes =>
    hlisted es ⟨v, items, label, hv, hitems, hes⟩
  rw [decode_eq, decode_eq]
  exact hwithin.bind fun _ _ halike => settled_congr h hone halike

/-- An injection with short names. -/
def shortInjection : List (Value × Value) :=
  [(.text (Text.of "into"), .text (Text.of "f")), (.text (Text.of "content"), .int 1),
    (.text (Text.of "before"), .text (Text.of "x"))]

/-- A directive with that injection. -/
def shortEntries : List (Value × Value) :=
  [(.text (Text.of "to"), .text (Text.of "a")),
    (.text (Text.of "injections"), .list [.map none shortInjection])]

/-- The same injection with long names and the other way around. -/
def longInjection : List (Value × Value) :=
  [(.text (Text.of "before"), .text (Text.of "x")), (.text (Text.of "payload"), .int 1),
    (.text (Text.of "target_path"), .text (Text.of "f"))]

/-- The same directive with long names and the other way around. -/
def longEntries : List (Value × Value) :=
  [(.text (Text.of "injections"), .list [.map none longInjection]),
    (.text (Text.of "target_path"), .text (Text.of "a"))]

theorem areRespelt_injection : AreRespelt SameInjectionEntry shortInjection longInjection := by
  refine ⟨shortInjection.reverse, (List.reverse_perm _).symm, .cons ⟨.inl rfl, rfl⟩ (.cons ⟨.inr ?_,
    rfl⟩ (.cons ⟨.inr ?_, rfl⟩ .nil))⟩
  · exact ⟨payloadField, by simp [injectionFields], rfl, rfl⟩
  · exact ⟨targetField, by simp [injectionFields], rfl, rfl⟩

theorem areRespelt_entries : AreRespelt SameEntry shortEntries longEntries := by
  refine ⟨shortEntries.reverse, (List.reverse_perm _).symm, .cons ⟨.inl rfl, .inr ⟨rfl, .list (.cons
    (.injection areRespelt_injection) .nil)⟩⟩ (.cons ⟨.inr ?_, .inl rfl⟩ .nil)⟩
  exact ⟨toField, by simp [directiveFields], rfl, rfl⟩

/-- Entries with a pattern that counts to 4294967295. -/
def countingEntries : List (Value × Value) :=
  [(.text (Text.of "to"), .text (Text.of "a")),
    (.text (Text.of "injections"), .list [.map none
      [(.text (Text.of "into"), .text (Text.of "f")),
        (.text (Text.of "before"), .text (Text.of "a\x7b4294967295\x7d"))]])]

end Directives

end Directive

end Scaffold
