import Scaffold.Proofs.Template.Filter
import Scaffold.Proofs.Template.Loop

/-!
# Evaluating expressions

At a place where all its names can be seen, an expression comes to a sound item or to one of the
faults that it risks. This is so for every state of the cells that the shapes tell of, so it holds
of an expression wherever it stands and however often it is evaluated.
-/

namespace Scaffold

namespace Template

variable {E : Reckoning} {σ : Shapes} {eng : Engine} {p : Place} {item key held : Item}

/-! ### Members -/

namespace Abides

/-- What is chosen by the truth of a sound item abides if either choice does. -/
theorem thenTrue {α : Type} {work : Work Item} {next : Bool → Work α} {good : Shapes → α → Prop}
    (hwork : Abides E σ (fun τ i => i.IsSound E τ) work)
    (hnext : ∀ τ isTrue, σ.Grows τ → Abides E τ good (next isTrue)) :
    Abides E σ good (do next (← Template.isTrue (← work))) :=
  hwork.bind fun τ _ hτ hx => (Looks.isTrue hx).seq fun isTrue _ => hnext τ isTrue hτ

/-- A loop is asked first, and then like any other item. -/
theorem loopMemberOr {a : Address} {other : Work Item} (heng : eng.IsSound E)
    (hlong : E.has .badValue) (ha : σ a = some .loop) (name : Text)
    (hother : ∀ τ, σ.Grows τ → Abides E τ (fun τ i => i.IsSound E τ) other) :
    Abides E σ (fun τ i => i.IsSound E τ) (do
      match ← Template.loopMember? eng a name with
      | some found => return found
      | _ => other) := by
  refine (loopMember? heng hlong ha name).bind fun τ found hτ hfound => ?_
  cases found with
  | some i => exact pure (hfound i rfl)
  | none => exact hother τ hτ

theorem memberOf (heng : eng.IsSound E) (h : item.IsSound E σ) (name : Text) :
    Abides E σ (fun τ i => i.IsSound E τ) (memberOf eng item name) := by
  have hdotted (τ : Shapes) (hτ : σ.Grows τ) :
      Abides E τ (fun τ i => i.IsSound E τ) (Item.dotted eng.strict item name) :=
    (Looks.dotted eng.strict (h.grows hτ) name).abides fun _ hi => hi
  cases h with
  | value ha =>
    refine (Looks.cellAt ha).seq fun c hc => ?_
    cases hc <;> exact hdotted σ (.refl σ)
  | loop ha hlong =>
    refine (Looks.cellAt ha).seq fun c hc => ?_
    cases hc
    rw [if_pos rfl]
    exact loopMemberOr heng hlong ha name hdotted
  | _ => exact hdotted σ (.refl σ)

theorem entryOf (heng : eng.IsSound E) (h : item.IsSound E σ) (hkey : key.IsSound E σ) :
    Abides E σ (fun τ i => i.IsSound E τ) (entryOf eng item key) := by
  have hindexed (τ : Shapes) (hτ : σ.Grows τ) :
      Abides E τ (fun τ i => i.IsSound E τ) (Item.indexed eng.strict item key) :=
    (Looks.indexed eng.strict (h.grows hτ) (hkey.grows hτ)).abides fun _ hi => hi
  cases h with
  | value ha =>
    refine (Looks.cellAt ha).seq fun c hc => ?_
    cases hc <;> exact hindexed σ (.refl σ)
  | loop ha hlong =>
    refine (Looks.cellAt ha).seq fun c hc => ?_
    cases hc
    rw [if_pos rfl]
    cases key with
    | text safe name => exact loopMemberOr heng hlong ha name hindexed
    | _ => exact hindexed σ (.refl σ)
  | _ => exact hindexed σ (.refl σ)

end Abides

/-! ### Mappings -/

/-- A key that is a text, or else it is reckoned with that it is not fit for one. -/
def IsFitKey (E : Reckoning) (key : Item) : Prop := E.has .unfit ∨ key.text?.isSome = true

theorem IsFitKey.checkKey_fails (h : IsFitKey E key) (cells : Array Cell) :
    FailsAs E.has (Item.checkKey cells key) := by
  rcases h with h | h
  · exact Item.checkKey_fails h cells key
  · cases key with
    | text => trivial
    | _ => cases h

theorem Looks.putEntries {es : List (Item × Item)} (hes : AreEntries E σ es)
    (hkeys : ∀ e ∈ es, IsFitKey E e.1) :
    Looks E σ (AreEntries E σ) (Item.putEntries [] es) := by
  refine heap.seq fun cells hd => ?_
  have hfold (made : List (Item × Item)) (hmade : AreEntries E σ made) :
      Looks E σ (AreEntries E σ) (es.foldlM (fun made e => do
        Template.lift (Item.checkKey cells e.1)
        Template.lift (Item.putEntry cells e.1 e.2 made)) made) := by
    induction es generalizing made with
    | nil => exact pure hmade
    | cons e es ih =>
      obtain ⟨hentry, hes⟩ := List.forall_mem_cons.mp hes
      obtain ⟨hkey, hkeys⟩ := List.forall_mem_cons.mp hkeys
      have hput := Item.putEntry_gives hd hentry.1 hentry.2 hmade
      rw [List.foldlM_cons]
      refine seq ?_ fun made hmade => ih hes hkeys made hmade
      exact (lift (hkey.checkKey_fails cells)).seq fun _ _ => lift hput
  exact hfold [] (List.forall_mem_nil _)

/-! ### Expressions -/

/-- Where not everything is reckoned with, the use of a filter or a test has arguments by
position. -/
theorem Reckoning.positional_of_use {ofCount : Nat → List Fault} {args : List (Argument Expr)}
    (h : E.hasAll (risksOfUse ofCount args)) :
    args.all Argument.isPositional = true ∧ E.hasAll (ofCount args.length) := by
  unfold risksOfUse at h
  split at h
  · exact ⟨‹_›, h⟩
  · exact absurd h E.isProper

namespace Abides

/-- A string is a text. -/
theorem isText_of_isString {e : Expr}
    (h : Abides E σ (fun τ i => i.IsSound E τ) (Template.eval eng p held e)) :
    Abides E σ (fun τ i => i.IsSound E τ ∧ (e.isString = true → i.text?.isSome = true))
      (Template.eval eng p held e) := by
  cases e with
  | string s =>
    rw [Template.eval]
    exact pure ⟨.text false s, fun _ => rfl⟩
  | _ => exact h.mono fun _ _ _ hi => ⟨hi, fun hs => absurd hs Bool.false_ne_true⟩

mutual

/-- **An expression** comes to a sound item, or to a fault that it risks. -/
theorem eval {σ : Shapes} (heng : eng.IsSound E) (hheld : held.IsSound E σ) (e : Expr)
    (h : p.Bears E σ e.names [] e.risks) :
    Abides E σ (fun τ i => i.IsSound E τ) (eval eng p held e) := by
  rw [Template.eval.eq_def]
  cases e with
  | null => exact pure .null
  | bool b => exact pure (.bool b)
  | integer n =>
    refine pure (.int fun m hm hlong => h.risks _ ?_)
    obtain rfl := List.mem_singleton.mp hm
    rw [Expr.risks, if_pos hlong]
    exact .head _
  | float x => exact pure (.float x)
  | string s => exact pure (.text false s)
  | name s => exact (Looks.readName eng.strict h.place (h.reads s (.head _))).abides fun _ hi => hi
  | list es => exact (evalAll heng hheld es h).bind fun _ _ _ hitems => newList hitems
  | tuple es => exact (evalAll heng hheld es h).bind fun _ _ _ hitems => pure (.tuple false hitems)
  | map es =>
    obtain ⟨hkeys, h⟩ := h.splitRisks
    refine (evalEntries heng hheld es h).bind fun τ entries _ hentries => ?_
    refine (Looks.putEntries hentries.1 fun e he => ?_).seq fun _ hmade => newMap hmade
    split at hkeys
    · exact .inr (hentries.2 ‹_› e he)
    · exact .inl (hkeys _ (.head _))
  | unary op e =>
    obtain ⟨hop, h⟩ := h.splitRisks
    exact (eval heng hheld e h).bind fun _ _ _ hx => operateOn hop hx
  | binary op a b =>
    obtain ⟨ha, hb⟩ := h.splitReads
    obtain ⟨hop, ha⟩ := ha.splitRisks
    have hmod : op ≠ .mod := by
      rintro rfl
      exact E.isProper hop
    refine (eval heng hheld a ha).bind fun τ x hτ hx => ?_
    refine (eval heng (hheld.grows hτ) b (hb.grows hτ)).bind fun υ y hυ hy => ?_
    exact operate hop hmod (hx.grows hυ) hy
  | both a b =>
    obtain ⟨ha, hb⟩ := h.splitReads
    refine (eval heng hheld a ha).bind fun τ x hτ hx => (Looks.isTrue hx).seq fun isTrue _ => ?_
    split
    · exact eval heng (hheld.grows hτ) b (hb.grows hτ)
    · exact pure hx
  | either a b =>
    obtain ⟨ha, hb⟩ := h.splitReads
    refine (eval heng hheld a ha).bind fun τ x hτ hx => (Looks.isTrue hx).seq fun isTrue _ => ?_
    split
    · exact pure hx
    · exact eval heng (hheld.grows hτ) b (hb.grows hτ)
  | joined es =>
    refine (evalAll heng hheld es h).bind fun _ _ _ hitems => ?_
    exact (Looks.joinTexts p.escapes hitems).abides fun _ hi => hi
  | compare e es =>
    obtain ⟨he, hes⟩ := h.splitReads
    refine (eval heng hheld e he).bind fun τ x hτ hx => ?_
    exact compareAll heng (hheld.grows hτ) hx es (hes.grows hτ)
  | choice test yes no =>
    obtain ⟨h, hno⟩ := h.splitReads
    obtain ⟨htest, hyes⟩ := h.splitReads
    refine (eval heng hheld test htest).thenTrue fun τ isTrue hτ => ?_
    split
    · exact eval heng (hheld.grows hτ) yes (hyes.grows hτ)
    · exact (evalOption heng (hheld.grows hτ) no (hno.grows hτ)).bind fun _ _ _ hi =>
        pure (hi _ (.undefined false))
  | member e name =>
    exact (eval heng hheld e h).bind fun _ _ _ hx => memberOf heng hx name
  | item e index =>
    cases index with
    | slice a b c =>
      obtain ⟨he, hbounds⟩ := h.splitReads
      obtain ⟨hrisks, he⟩ := he.splitRisks
      obtain ⟨hbounds, hc⟩ := hbounds.splitReads
      obtain ⟨ha, hb⟩ := hbounds.splitReads
      have hunfit : E.has .unfit := hrisks _ (.head _)
      have hbad : E.has .badValue := hrisks _ (.tail _ (.head _))
      refine (eval heng hheld e he).bind fun σ₁ x h₁ hx => ?_
      refine (evalOption heng (hheld.grows h₁) a (ha.grows h₁)).bind fun σ₂ start h₂ _ => ?_
      have h₁₂ := h₁.trans h₂
      refine (evalOption heng (hheld.grows h₁₂) b (hb.grows h₁₂)).bind fun σ₃ stop h₃ _ => ?_
      have h₁₃ := h₁₂.trans h₃
      refine (evalOption heng (hheld.grows h₁₃) c (hc.grows h₁₃)).bind fun σ₄ step h₄ _ => ?_
      exact slice hunfit hbad (hx.grows (h₂.trans (h₃.trans h₄)))
    | _ =>
      obtain ⟨he, hindex⟩ := h.splitReads
      refine (eval heng hheld e he).bind fun τ x hτ hx => ?_
      refine (eval heng (hheld.grows hτ) _ (hindex.grows hτ)).bind fun υ y hυ hy => ?_
      exact entryOf heng (hx.grows hυ) hy
  | slice | call => exact absurd h.risks E.isProper
  | filter subject name args =>
    obtain ⟨h, hargs⟩ := h.splitReads
    obtain ⟨huse, hsubject⟩ := h.splitRisks
    obtain ⟨hpositional, hrisks⟩ := E.positional_of_use huse
    refine (evalOption heng hheld subject hsubject).bind fun τ x hτ hx => ?_
    rw [evalArguments]
    refine (evalPositional heng (hheld.grows hτ) AreSound.nil args hpositional
      (hargs.grows hτ)).bind ?_
    rintro υ _ hυ ⟨items, rfl, hitems, hlength⟩
    rw [List.length_nil, Nat.zero_add] at hlength
    have hsubject := (hx held (hheld.grows hτ)).grows hυ
    exact applyFilter eng p (hlength ▸ hrisks) hitems hsubject
  | test subject name args =>
    obtain ⟨h, hargs⟩ := h.splitReads
    obtain ⟨huse, hsubject⟩ := h.splitRisks
    obtain ⟨hpositional, hrisks⟩ := E.positional_of_use huse
    refine (eval heng hheld subject hsubject).bind fun τ x hτ hx => ?_
    rw [evalArguments]
    refine (evalPositional heng (hheld.grows hτ) AreSound.nil args hpositional
      (hargs.grows hτ)).bind ?_
    rintro υ _ hυ ⟨items, rfl, hitems, hlength⟩
    rw [List.length_nil, Nat.zero_add] at hlength
    exact (Looks.applyTest (hlength ▸ hrisks) hitems (hx.grows hυ)).abides fun _ hi => hi

theorem evalAll {σ : Shapes} (heng : eng.IsSound E) (hheld : held.IsSound E σ) (es : List Expr)
    (h : p.Bears E σ (Expr.namesOfAll es) [] (Expr.risksOfAll es)) :
    Abides E σ (fun τ items => AreSound E τ items) (evalAll eng p held es) := by
  rw [Template.evalAll.eq_def]
  cases es with
  | nil => exact pure fun _ hi => nomatch hi
  | cons e es =>
    obtain ⟨he, hes⟩ := h.splitReads
    refine (eval heng hheld e he).bind fun τ x hτ hx => ?_
    refine (evalAll heng (hheld.grows hτ) es (hes.grows hτ)).bind fun υ items hυ hitems => ?_
    exact pure (List.forall_mem_cons.mpr ⟨hx.grows hυ, hitems⟩)

theorem evalOption {σ : Shapes} (heng : eng.IsSound E) (hheld : held.IsSound E σ) (e? : Option Expr)
    (h : p.Bears E σ (Expr.namesOfOption e?) [] (Expr.risksOfOption e?)) :
    Abides E σ (fun τ found => ∀ other : Item, other.IsSound E τ → (found.getD other).IsSound E τ)
      (evalOption eng p held e?) := by
  rw [Template.evalOption.eq_def]
  cases e? with
  | none => exact pure fun _ hother => hother
  | some e => exact (eval heng hheld e h).map fun _ _ _ hi _ _ => hi

theorem evalEntries {σ : Shapes} (heng : eng.IsSound E) (hheld : held.IsSound E σ)
    (es : List (Expr × Expr))
    (h : p.Bears E σ (Expr.namesOfEntries es) [] (Expr.risksOfEntries es)) :
    Abides E σ (fun τ entries => AreEntries E τ entries ∧
        (es.all (fun e => e.1.isString) = true → ∀ e ∈ entries, e.1.text?.isSome = true))
      (evalEntries eng p held es) := by
  rw [Template.evalEntries.eq_def]
  cases es with
  | nil => exact pure ⟨fun _ he => (nomatch he), fun _ _ he => nomatch he⟩
  | cons entry es =>
    obtain ⟨k, v⟩ := entry
    obtain ⟨h, hes⟩ := h.splitReads
    obtain ⟨hk, hv⟩ := h.splitReads
    refine (isText_of_isString (eval heng hheld k hk)).bind fun σ₁ key hσ₁ hkey => ?_
    refine (eval heng (hheld.grows hσ₁) v (hv.grows hσ₁)).bind fun σ₂ value hσ₂ hvalue => ?_
    have hσ := hσ₁.trans hσ₂
    refine (evalEntries heng (hheld.grows hσ) es (hes.grows hσ)).bind
      fun σ₃ entries hσ₃ hentries => ?_
    have hfirst := hkey.1.grows (hσ₂.trans hσ₃)
    refine pure ⟨List.forall_mem_cons.mpr ⟨⟨hfirst, hvalue.grows hσ₃⟩, hentries.1⟩, fun hall => ?_⟩
    obtain ⟨hstring, hstrings⟩ := Bool.and_eq_true_iff.mp hall
    exact List.forall_mem_cons.mpr ⟨hkey.2 hstring, hentries.2 hstrings⟩

theorem compareAll {σ : Shapes} (heng : eng.IsSound E) (hheld : held.IsSound E σ) {x : Item}
    (hx : x.IsSound E σ) (es : List (Comparison × Expr))
    (h : p.Bears E σ (Expr.namesOfOperands es) [] (Expr.risksOfOperands es)) :
    Abides E σ (fun τ i => i.IsSound E τ) (compareAll eng p held x es) := by
  rw [Template.compareAll.eq_def]
  cases es with
  | nil => exact pure (.bool true)
  | cons operand es =>
    obtain ⟨c, e⟩ := operand
    obtain ⟨he, hes⟩ := h.splitReads
    obtain ⟨hc, he⟩ := he.splitRisks
    refine (eval heng hheld e he).bind fun τ y hτ hy => ?_
    refine (Looks.compareItems hc (hx.grows hτ) hy).seq fun holds _ => ?_
    split
    · exact compareAll heng (hheld.grows hτ) hy es (hes.grows hτ)
    · exact pure (.bool false)

theorem evalPositional {σ : Shapes} (heng : eng.IsSound E) (hheld : held.IsSound E σ)
    {items : List Item} (hitems : AreSound E σ items) (args : List (Argument Expr))
    (hargs : args.all Argument.isPositional = true)
    (h : p.Bears E σ (Expr.namesOfArguments args) [] (Expr.risksOfArguments args)) :
    Abides E σ (fun τ g => ∃ given, g = ⟨given, []⟩ ∧ AreSound E τ given ∧
        given.length = items.length + args.length)
      (evalArgumentsOnto eng p held ⟨items, []⟩ args) := by
  rw [Template.evalArgumentsOnto.eq_def]
  cases args with
  | nil => exact pure ⟨items, rfl, hitems, rfl⟩
  | cons arg args =>
    cases arg with
    | positional e =>
      obtain ⟨he, hothers⟩ := h.splitReads
      have hfirst : Abides E σ (fun τ g => ∃ x : Item, g = ⟨items ++ [x], []⟩ ∧ x.IsSound E τ)
          (evalArgument eng p held ⟨items, []⟩ (.positional e)) := by
        rw [evalArgument.eq_def]
        exact (eval heng hheld e he).bind fun _ x _ hx => pure ⟨x, rfl, hx⟩
      refine hfirst.bind ?_
      rintro τ _ hτ ⟨x, rfl, hx⟩
      have hitems : AreSound E τ (items ++ [x]) :=
        List.forall_mem_append.mpr ⟨hitems.grows hτ, List.forall_mem_singleton.mpr hx⟩
      refine (evalPositional heng (hheld.grows hτ) hitems args hargs (hothers.grows hτ)).mono ?_
      rintro υ _ hυ ⟨given, rfl, hgiven, hlength⟩
      refine ⟨given, rfl, hgiven, ?_⟩
      simp only [hlength, List.length_append, List.length_cons, List.length_nil]
      omega
    | named | spread | spreadNamed => cases hargs

end

end Abides

/-- **Engines** of all depths are sound: each evaluates with the one below it, and the last one has
no level left. -/
theorem Engine.isSound_ofDepth (strict : Bool) (find : Text → Except Fault Template) (depth : Nat) :
    (Engine.ofDepth strict find depth).IsSound E := by
  induction depth with
  | zero => exact fun _ => Abides.throw E.tooDeep
  | succ depth ih => exact fun h => Abides.eval ih .null _ h

end Template

end Scaffold
