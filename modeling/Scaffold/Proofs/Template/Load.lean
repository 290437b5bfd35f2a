import Scaffold.Proofs.Template.Shape
import Scaffold.Template.Item.Load

/-!
# Loading variables

The items for variables are sound. Values that stand at several places are cells that are labelled
while the others are loaded.

## Main definitions

* `Template.Loads` — a step of loading after which every label stands for a value
-/

namespace Scaffold

namespace Template

open Item (Labels Loading)

variable {E : Reckoning} {σ τ : Shapes} {α β : Type} {labels : Labels}

/-- Labels that stand for values in cells. -/
def AreLabels (σ : Shapes) (labels : Labels) : Prop := ∀ x ∈ labels, σ x.2 = some .value

theorem AreLabels.grows (h : AreLabels σ labels) (hgrows : σ.Grows τ) : AreLabels τ labels :=
  fun x hx => hgrows.settled (h x hx) rfl

/-- A step of loading that abides by the shapes. Labels stand for values before and after it. -/
def Loads (E : Reckoning) (σ : Shapes) (good : Shapes → α → Prop) (m : Loading α) : Prop :=
  ∀ labels, AreLabels σ labels →
    Abides E σ (fun τ r => good τ r.1 ∧ AreLabels τ r.2) (m.run labels)

namespace Loads

variable {good : Shapes → α → Prop} {good' : Shapes → β → Prop} {m : Loading α}
  {f : α → Loading β}

theorem pure {a : α} (h : good σ a) : Loads E σ good (Pure.pure a) :=
  fun _ hlabels => Abides.pure ⟨h, hlabels⟩

theorem bind (hm : Loads E σ good m)
    (hf : ∀ τ a, σ.Grows τ → good τ a → Loads E τ good' (f a)) : Loads E σ good' (m >>= f) := by
  intro labels hlabels
  rw [StateT.run_bind]
  exact (hm labels hlabels).bind fun τ r hτ hr => hf τ r.1 hτ hr.1 r.2 hr.2

theorem lift {step : Work α} (h : Abides E σ good step) : Loads E σ good (liftM step) :=
  fun _ hlabels => h.bind fun _ _ hτ ha => Abides.pure ⟨ha, hlabels.grows hτ⟩

theorem newCell {c : Cell} (hc : c.Fits E σ .value) :
    Loads E σ (fun τ i => i.IsSound E τ) (Item.newCell c) :=
  fun _ hlabels => (Abides.refTo hc).bind fun _ _ hτ hi => Abides.pure ⟨hi, hlabels.grows hτ⟩

/-- The labels that there are can be looked at. -/
theorem get_bind {f : Labels → Loading β}
    (hf : ∀ labels, AreLabels σ labels → Loads E σ good' (f labels)) :
    Loads E σ good' (get >>= f) :=
  fun labels hlabels => hf labels hlabels labels hlabels

/-- A label is given to a cell that holds a value. -/
theorem addLabel {label : Nat} {a : Address} (ha : σ a = some .value) :
    Loads E σ (fun _ _ => True) (modify ((label, a) :: ·) : Loading PUnit) :=
  fun _ hlabels => Abides.pure ⟨trivial, List.forall_mem_cons.mpr ⟨ha, hlabels⟩⟩

/-- The item for a text is a text. -/
theorem isText_of_isTextValue {v : Value}
    (h : Loads E σ (fun τ i => i.IsSound E τ) (Item.load v)) :
    Loads E σ (fun τ i => i.IsSound E τ ∧ (isTextValue v = true → i.text?.isSome = true))
      (Item.load v) := by
  cases v with
  | text s =>
    rw [Item.load]
    exact pure ⟨.text false s, fun _ => rfl⟩
  | _ =>
    exact fun labels hlabels => (h labels hlabels).mono fun _ _ _ hr =>
      ⟨⟨hr.1, fun htext => nomatch htext⟩, hr.2⟩

mutual

/-- The item for a value is sound. -/
theorem load {σ : Shapes} (v : Value) (h : AreWritable E (numbersOfValue v)) :
    Loads E σ (fun τ i => i.IsSound E τ) (Item.load v) := by
  rw [Item.load.eq_def]
  cases v with
  | null => exact pure .null
  | bool b => exact pure (.bool b)
  | int n => exact pure (.int h)
  | float x => exact pure (.float x)
  | text s => exact pure (.text false s)
  | bytes b => exact pure (.bytes b)
  | date d => exact pure (.date h)
  | moment t => exact pure (.moment h)
  | list vs => exact (loadAll vs h).bind fun _ _ _ hitems => newCell (.list hitems)
  | tuple vs => exact (loadAll vs h).bind fun _ _ _ hitems => pure (.tuple false hitems)
  | set vs => exact (loadAll vs h).bind fun _ _ _ hitems => newCell (.set hitems)
  | map label es =>
    cases label with
    | none => exact (loadEntries es h).bind fun _ _ _ hes => newCell (.map hes.1)
    | some label =>
      refine get_bind fun labels hlabels => ?_
      split
      · next hlookup => exact pure (.value (hlabels _ (mem_of_lookup hlookup)))
      · have hempty : Cell.Fits E σ .value (.map []) := .map fun _ he => nomatch he
        refine (lift (Abides.allocate hempty)).bind fun σ₁ a h₁ ha => ?_
        refine (addLabel ha).bind fun σ₂ _ h₂ _ => ?_
        refine (loadEntries es h).bind fun σ₃ entries h₃ hes => ?_
        have ha := (h₂.trans h₃).settled ha rfl
        have hset : Abides E σ₃ (fun τ _ => τ a = some .value) (setCell a (.map entries)) :=
          (Looks.setCell ha (.map hes.1)).abides fun _ _ => ha
        exact (lift hset).bind fun _ _ _ ha => pure (.value ha)
  | cycle label ofMap =>
    refine get_bind fun labels hlabels => ?_
    split
    · next hlookup => exact pure (.value (hlabels _ (mem_of_lookup hlookup)))
    · refine newCell ?_
      split
      · exact .map fun _ he => nomatch he
      · exact .list .nil

theorem loadAll {σ : Shapes} (vs : List Value) (h : AreWritable E (numbersOfValues vs)) :
    Loads E σ (fun τ items => AreSound E τ items) (Item.loadAll vs) := by
  rw [Item.loadAll.eq_def]
  cases vs with
  | nil => exact pure .nil
  | cons v vs =>
    obtain ⟨hv, hvs⟩ := List.forall_mem_append.mp h
    refine (load v hv).bind fun τ item hτ hitem => (loadAll vs hvs).bind fun υ items hυ hitems => ?_
    exact pure (List.forall_mem_cons.mpr ⟨hitem.grows hυ, hitems⟩)

/-- The items for entries are sound. Keys that are texts stay texts. -/
theorem loadEntries {σ : Shapes} (es : List (Value × Value))
    (h : AreWritable E (numbersOfEntries es)) :
    Loads E σ (fun τ entries => AreEntries E τ entries ∧
        (es.all (fun e => isTextValue e.1) = true → ∀ e ∈ entries, e.1.text?.isSome = true))
      (Item.loadEntries es) := by
  rw [Item.loadEntries.eq_def]
  cases es with
  | nil => exact pure ⟨fun _ he => (nomatch he), fun _ _ he => nomatch he⟩
  | cons entry es =>
    obtain ⟨k, v⟩ := entry
    obtain ⟨hfirst, hes⟩ := List.forall_mem_append.mp h
    obtain ⟨hk, hv⟩ := List.forall_mem_append.mp hfirst
    refine (isText_of_isTextValue (load k hk)).bind fun σ₁ key h₁ hkey => ?_
    refine (load v hv).bind fun σ₂ item h₂ hitem => ?_
    refine (loadEntries es hes).bind fun σ₃ entries h₃ hentries => ?_
    have hentry := And.intro (hkey.1.grows (h₂.trans h₃)) (hitem.grows h₃)
    refine pure ⟨List.forall_mem_cons.mpr ⟨hentry, hentries.1⟩, fun hall => ?_⟩
    obtain ⟨htext, htexts⟩ := Bool.and_eq_true_iff.mp hall
    exact List.forall_mem_cons.mpr ⟨hkey.2 htext, hentries.2 htexts⟩

end

end Loads

/-- **Variables** are sound items, if it is reckoned with what they risk. -/
theorem Abides.loadVariables {vars : List (Value × Value)} (h : E.hasAll (risksOfVariables vars)) :
    Abides E σ (fun τ names => AreBound E τ names) (loadVariables vars) := by
  obtain ⟨hnames, hnumbers⟩ := List.forall_mem_append.mp h
  have hwritable : AreWritable E (numbersOfEntries vars) := by
    intro n hn hlong
    rw [if_pos (List.any_eq_true.mpr ⟨n, hn, hlong⟩)] at hnumbers
    exact hnumbers _ (.head _)
  have hno : AreLabels σ [] := fun _ hx => nomatch hx
  refine (Loads.loadEntries vars hwritable [] hno).bind fun τ r _ hr => ?_
  obtain ⟨⟨hentries, htexts⟩, -⟩ := hr
  refine Looks.abides (Looks.mapM fun e he => ?_) fun _ hnamed => hnamed
  obtain ⟨key, item⟩ := e
  cases key with
  | text safe name => exact Looks.pure (hentries _ he).2
  | _ =>
    refine Abides.throw ?_
    split at hnames
    · exact nomatch htexts ‹_› _ he
    · exact hnames _ (.head _)

end Template

end Scaffold
