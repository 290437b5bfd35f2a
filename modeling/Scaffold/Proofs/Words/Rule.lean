import Scaffold.Proofs.Words.Case
import Scaffold.Words.Plural

/-!
# The rules for plurals

What the ordered rules make of a word, told from the letters at its end. A rule applies in one of
finitely many *forms*, each with a stem, an ending and what takes the place of the ending. The
letters at the end of a word leave a short list of forms in which the first rule that applies to it
can apply: the forms with letters that agree with those of the word, of the rules up to the first
one that surely applies to every such word. So what the rules do to all words with an ending is
found out from that list, whatever their order and number.

## Main definitions

* `Words.Form`, `Form.Gives` — one way in which a rule applies, and what it then does
* `Words.firstForms` — the forms in which the first rule that applies may apply
* `Words.IsLow` — a word in small letters, or with one capital in front of small letters
* `Words.isSingularInS` — the letters of a word in `-s` that is taken for a singular

## Main results

* `exists_firstForm` — what the rules make of a word, by the letters at its end
* `pluralWord_of_settles` — words that are their own plural
* `pluralWord_eq_self_iff` — of the words in `-s` exactly the singulars get another plural
* `pluralWord_of_takesS` — words that get an `s`
-/

namespace Scaffold

namespace Words

variable {b s t v w res : Text} {c : Char}

/-! ### How a rule applies -/

/-- One way in which a rule applies: to a word that ends in the stem and the ending, which is
replaced. -/
structure Form where
  /-- Nothing stands before the stem. -/
  whole : Bool
  /-- The case of the first letter of the ending matters. -/
  strict : Bool
  /-- Nothing else is required. -/
  sure : Bool
  stem : Text
  ending : Text
  added : Text
deriving DecidableEq, Repr

/-- The letters that a word ends in when a rule applies to it. -/
def Form.letters (f : Form) : Text := f.stem ++ small f.ending

/-- A rule gives a word from another one in this way. -/
def Form.Gives (f : Form) (w res : Text) : Prop :=
  ∃ b t, w = b ++ t ∧ small t = small f.ending ∧ (f.strict = true → t.head? = f.ending.head?) ∧
    f.stem <:+ small b ∧ (f.whole = true → small b = f.stem) ∧ res = b ++ f.added

/-- The form of a rule for one of its stems and endings. Which letters must not stand before the
ending is left open: a rule with such a stem may apply, and is never sure to. -/
def Stem.form (r : Rule) (ending : String) : Stem → Form
  | letters s => ⟨r.whole, r.strict, true, s.toList, ending.toList, r.added.toList⟩
  | noneOf _ => ⟨false, r.strict, false, [], ending.toList, r.added.toList⟩

/-- The ways in which a rule applies. -/
def Rule.forms (r : Rule) : List Form :=
  r.endings.flatMap fun ending =>
    if r.stems.isEmpty then [⟨false, r.strict, true, [], ending.toList, r.added.toList⟩]
    else r.stems.map (·.form r ending)

theorem splitEnding?_eq_some_iff {strict : Bool} {ending : Text} :
    splitEnding? strict ending w = some b ↔
      ∃ t, w = b ++ t ∧ small t = small ending ∧ (strict = true → t.head? = ending.head?) := by
  have hsame : ∀ {t : Text}, small t = small ending → t.length = ending.length := fun h => by
    simpa [small] using congrArg List.length h
  constructor
  · intro h
    simp only [splitEnding?] at h
    split at h
    · rename_i htail
      simp only [Bool.and_eq_true, decide_eq_true_eq, Bool.or_eq_true, Bool.not_eq_true'] at htail
      obtain rfl := Option.some.inj h
      exact ⟨_, (List.take_append_drop _ w).symm, htail.1.2, fun hstrict =>
        htail.2.resolve_left (by simp [hstrict])⟩
    · exact absurd h (by simp)
  · rintro ⟨t, rfl, hsmall, hstrict⟩
    have hlength := hsame hsmall
    have hcount : (b ++ t).length - ending.length = b.length := by
      rw [List.length_append, hlength]
      omega
    simp only [splitEnding?, hcount, List.take_left, List.drop_left]
    rw [if_pos]
    cases strict <;> simp_all

theorem Stem.fits_letters_iff {whole : Bool} {letters : String} :
    (Stem.letters letters).fits whole b = true ↔
      letters.toList <:+ small b ∧ (whole = true → small b = letters.toList) := by
  cases whole with
  | false => simp [fits]
  | true =>
    simp only [fits, if_pos, decide_eq_true_eq, forall_const]
    exact ⟨fun h => ⟨h ▸ List.suffix_refl _, h⟩, And.right⟩

/-- Whatever a rule gives, it gives in one of its forms. -/
theorem Rule.exists_form {r : Rule} (h : r.result? w = some res) :
    ∃ f ∈ r.forms, f.Gives w res := by
  obtain ⟨ending, hending, hfound⟩ := List.exists_of_findSome?_eq_some h
  obtain ⟨b, hsplit, hres⟩ := Option.bind_eq_some_iff.mp hfound
  obtain ⟨t, rfl, hsmall, hstrict⟩ := splitEnding?_eq_some_iff.mp hsplit
  by_cases hstems : (r.stems.isEmpty || r.stems.any (·.fits r.whole b)) = true
  · rw [if_pos hstems] at hres
    obtain rfl := Option.some.inj hres
    simp only [forms, List.mem_flatMap]
    by_cases hempty : r.stems.isEmpty = true
    · refine ⟨_, ⟨ending, hending, by rw [if_pos hempty]; exact List.mem_cons_self⟩, b, t, rfl,
        hsmall, hstrict, List.nil_suffix, by simp, rfl⟩
    · rw [Bool.or_eq_true, List.any_eq_true] at hstems
      obtain ⟨stem, hstem, hfits⟩ := hstems.resolve_left hempty
      refine ⟨stem.form r ending, ⟨ending, hending, by
        rw [if_neg hempty]
        exact List.mem_map_of_mem hstem⟩, ?_⟩
      cases stem with
      | letters s =>
        obtain ⟨hsuffix, hwhole⟩ := Stem.fits_letters_iff.mp hfits
        exact ⟨b, t, rfl, hsmall, hstrict, hsuffix, hwhole, rfl⟩
      | noneOf s => exact ⟨b, t, rfl, hsmall, hstrict, List.nil_suffix, by simp [Stem.form], rfl⟩
  · rw [if_neg hstems] at hres
    exact absurd hres (by simp)

/-- In a form that requires nothing else, a rule does apply. -/
theorem Rule.isSome_result? {r : Rule} {f : Form} (hf : f ∈ r.forms) (hsure : f.sure = true)
    (h : f.Gives w res) : (r.result? w).isSome = true := by
  obtain ⟨b, t, rfl, hsmall, hstrict, hsuffix, hwhole, -⟩ := h
  obtain ⟨ending, hending, hform⟩ := List.mem_flatMap.mp hf
  rw [result?, List.findSome?_isSome_iff]
  refine ⟨ending, hending, ?_⟩
  by_cases hempty : r.stems.isEmpty = true
  · rw [if_pos hempty, List.mem_singleton] at hform
    subst hform
    rw [splitEnding?_eq_some_iff.mpr ⟨t, rfl, hsmall, hstrict⟩]
    simp [hempty]
  · rw [if_neg hempty] at hform
    obtain ⟨stem, hstem, rfl⟩ := List.mem_map.mp hform
    cases stem with
    | noneOf s => exact absurd hsure (by simp [Stem.form])
    | letters s =>
      have hstems : (r.stems.isEmpty || r.stems.any (·.fits r.whole b)) = true := by
        rw [Bool.or_eq_true, List.any_eq_true]
        exact Or.inr ⟨_, hstem, Stem.fits_letters_iff.mpr ⟨hsuffix, hwhole⟩⟩
      have hsplit : splitEnding? r.strict ending.toList (b ++ t) = some b :=
        splitEnding?_eq_some_iff.mpr ⟨t, rfl, hsmall, hstrict⟩
      rw [hsplit]
      exact Option.isSome_iff_exists.mpr ⟨_, if_pos hstems⟩

/-! ### The first rule that applies -/

/-- The forms of the rules up to the first one with a property. -/
def formsUpTo (p : Rule → Bool) : List Form :=
  (rules.take (rules.findIdx p + 1)).flatMap Rule.forms

theorem exists_form_upTo {p : Rule → Bool} {r : Rule} (hr : r ∈ rules) (hp : p r = true)
    (happlies : ∀ r ∈ rules, p r = true → (r.result? w).isSome = true) :
    ∃ f ∈ formsUpTo p, f.Gives w (byRules w) := by
  have hindex : rules.findIdx p < rules.length := List.findIdx_lt_length_of_exists ⟨r, hr, hp⟩
  have hfirst : ((rules.take (rules.findIdx p + 1)).findSome? (·.result? w)).isSome = true := by
    have hat := happlies _ (List.getElem_mem hindex) List.findIdx_getElem
    rw [List.findSome?_isSome_iff]
    exact ⟨_, List.mem_take_iff_getElem.mpr ⟨_, by omega, rfl⟩, hat⟩
  obtain ⟨res, hres⟩ := Option.isSome_iff_exists.mp hfirst
  obtain ⟨r', hr', hresult⟩ := List.exists_of_findSome?_eq_some hres
  have hbyRules : byRules w = res := by
    rw [byRules, ← List.take_append_drop (rules.findIdx p + 1) rules, List.findSome?_append, hres,
      Option.some_or, Option.getD_some]
  obtain ⟨f, hf, hgives⟩ := Rule.exists_form hresult
  exact ⟨f, List.mem_flatMap.mpr ⟨r', hr', hf⟩, hbyRules ▸ hgives⟩

/-- One of two texts ends in the other, as far as both go. -/
def meets (s t : Text) : Bool := s.isSuffixOf t || t.isSuffixOf s

theorem meets_of_suffix (hs : s <:+ w) (ht : t <:+ w) : meets s t = true := by
  rw [meets, Bool.or_eq_true, List.isSuffixOf_iff_suffix, List.isSuffixOf_iff_suffix]
  exact List.suffix_or_suffix_of_suffix hs ht

theorem small_append (s t : Text) : small (s ++ t) = small s ++ small t := List.map_append

theorem not_suffix_of_meets (h : meets s t = false) (ht : t <:+ w) : ¬s <:+ w :=
  fun hs => Bool.false_ne_true (h.symm.trans (meets_of_suffix hs ht))

theorem Form.Gives.letters_suffix {f : Form} (h : f.Gives w res) : f.letters <:+ small w := by
  obtain ⟨b, t, rfl, hsmall, -, ⟨more, hmore⟩, -⟩ := h
  exact ⟨more, by rw [letters, ← List.append_assoc, hmore, small_append, hsmall]⟩

theorem Form.Gives.letters_eq {f : Form} (h : f.Gives w res) (hwhole : f.whole = true) :
    small w = f.letters := by
  obtain ⟨b, t, rfl, hsmall, -, -, hstem, -⟩ := h
  rw [letters, small_append, hsmall, hstem hwhole]

/-- A form applies to every word with its letters. -/
theorem Form.exists_gives {f : Form} (hstrict : f.strict = false) (h : f.letters <:+ small w)
    (hwhole : f.whole = true → small w = f.letters) : ∃ res, f.Gives w res := by
  obtain ⟨more, hmore⟩ := h
  rw [letters, ← List.append_assoc] at hmore
  obtain ⟨b, t, rfl, hb, ht⟩ := List.map_eq_append_iff.mp hmore.symm
  refine ⟨_, b, t, rfl, ht, by simp [hstrict], ⟨more, hb.symm⟩, fun hw => ?_, rfl⟩
  have hletters := hwhole hw
  rw [small_append, letters, show small t = small f.ending from ht] at hletters
  exact List.append_cancel_right hletters

/-- Whether a rule surely applies to every word that ends in these letters, or, if `whole`, to the
word with these letters. -/
def Rule.covers (whole : Bool) (t : Text) (r : Rule) : Bool :=
  r.forms.any fun f => f.sure && !f.strict &&
    if f.whole then whole && decide (f.letters = t) else f.letters.isSuffixOf t

theorem Rule.isSome_of_covers {r : Rule} {whole : Bool} (h : r.covers whole t = true)
    (ht : t <:+ small w) (hw : whole = true → small w = t) : (r.result? w).isSome = true := by
  simp only [covers, List.any_eq_true, Bool.and_eq_true, Bool.not_eq_true'] at h
  obtain ⟨f, hf, ⟨hsure, hstrict⟩, hletters⟩ := h
  obtain ⟨res, hgives⟩ : ∃ res, f.Gives w res := by
    cases hwhole : f.whole with
    | false =>
      rw [hwhole, if_neg Bool.false_ne_true, List.isSuffixOf_iff_suffix] at hletters
      exact Form.exists_gives hstrict (hletters.trans ht) (by simp [hwhole])
    | true =>
      rw [hwhole, if_pos rfl, Bool.and_eq_true, decide_eq_true_eq] at hletters
      exact Form.exists_gives hstrict (hletters.2 ▸ ht) fun _ =>
        (hw hletters.1).trans hletters.2.symm
  exact isSome_result? hf hsure hgives

/-- The last rule surely applies. -/
theorem exists_covers (whole : Bool) (t : Text) : ∃ r ∈ rules, r.covers whole t = true :=
  ⟨.ending [] [""] "s", by simp [rules],
    by simp [Rule.covers, Rule.forms, Rule.ending, Form.letters, small]⟩

/-- The forms in which the first rule that applies to a word may apply, if the word ends in these
letters, or, if `whole`, has these letters. -/
def firstForms (whole : Bool) (t : Text) : List Form :=
  (formsUpTo (·.covers whole t)).filter fun f => meets f.letters t

/-- **The first rule that applies** to a word, found by the letters at its end. -/
theorem exists_firstForm (whole : Bool) (ht : t <:+ small w) (hw : whole = true → small w = t) :
    ∃ f ∈ firstForms whole t, f.Gives w (byRules w) := by
  obtain ⟨r, hr, hcovers⟩ := exists_covers whole t
  obtain ⟨f, hf, hgives⟩ := exists_form_upTo hr hcovers fun r _ hcovers =>
    r.isSome_of_covers hcovers ht hw
  exact ⟨f, List.mem_filter.mpr ⟨hf, meets_of_suffix hgives.letters_suffix ht⟩, hgives⟩

/-- Some rule always applies. -/
theorem exists_form (w : Text) : ∃ f ∈ rules.flatMap Rule.forms, f.Gives w (byRules w) := by
  obtain ⟨f, hf, hgives⟩ :=
    exists_firstForm (t := []) (w := w) false List.nil_suffix (by simp)
  obtain ⟨r, hr, hform⟩ := List.mem_flatMap.mp (List.mem_of_mem_filter hf)
  exact ⟨f, List.mem_flatMap.mpr ⟨r, List.mem_of_mem_take hr, hform⟩, hgives⟩

/-! ### The plural of a word -/

theorem isListed_iff {words : List String} :
    isListed words w = true ↔ ∃ word ∈ words, small w = word.toList := by
  simp only [isListed, List.any_eq_true, decide_eq_true_eq]
  exact exists_congr fun word => and_congr_right fun _ => eq_comm

theorem not_isListed_of_meets {words : List String} (ht : t <:+ small w)
    (h : ∀ word ∈ words, meets word.toList t = false) : ¬isListed words w = true := by
  intro hlisted
  obtain ⟨word, hword, hsame⟩ := isListed_iff.mp hlisted
  exact not_suffix_of_meets (h word hword) ht (hsame ▸ List.suffix_refl _)

/-- The three ways to a plural. -/
theorem pluralWord_cases (w : Text) :
    pluralWord w = w ∨ pluralWord w = w ++ Text.of "es" ∨ pluralWord w = byRules w := by
  have hes : w ++ ['e', 's'] = w ++ Text.of "es" := rfl
  simp only [pluralWord, hes]
  split
  · exact Or.inr (Or.inl rfl)
  · split <;> split
    · exact Or.inr (Or.inl rfl)
    · exact Or.inl rfl
    · exact Or.inr (Or.inl rfl)
    · exact Or.inr (Or.inr rfl)

theorem pluralWord_eq_byRules (hoes : ¬isListed oesNouns w = true) (hne : w ≠ [])
    (hcountable : ¬isListed uncountable w = true)
    (hus : byRules w = w → ¬Text.of "us" <:+ small w) : pluralWord w = byRules w := by
  have hresult : (if w.isEmpty || isListed uncountable w then w else byRules w) = byRules w :=
    if_neg (by simp [hne, hcountable])
  simp only [pluralWord, if_neg hoes, hresult]
  split
  · rename_i hend
    rw [Bool.and_eq_true, decide_eq_true_eq, List.isSuffixOf_iff_suffix] at hend
    exact absurd hend.2 (hus hend.1)
  · rfl

theorem pluralWord_eq_self (hoes : ¬isListed oesNouns v = true) (hrules : byRules v = v)
    (hus : ¬Text.of "us" <:+ small v) : pluralWord v = v := by
  have hresult : (if v.isEmpty || isListed uncountable v then v else byRules v) = v := by
    rw [hrules, ite_self]
  have hend : ("us".toList.isSuffixOf (small v)) = false := by
    rw [← Bool.not_eq_true, List.isSuffixOf_iff_suffix]
    exact hus
  simp only [pluralWord, if_neg hoes, hresult, hend, Bool.and_false, Bool.false_eq_true, if_false]

theorem pluralWord_ne_self_of_us (h : Text.of "us" <:+ small v) : pluralWord v ≠ v := by
  have hend : ("us".toList.isSuffixOf (small v)) = true := List.isSuffixOf_iff_suffix.mpr h
  have hadded : v ++ ['e', 's'] ≠ v := by simp
  have hresult : ∀ result : Text, (if result = v then v ++ ['e', 's'] else result) ≠ v :=
    fun result => by
      split
      · exact hadded
      · assumption
  rw [pluralWord]
  split
  · exact hadded
  · simp only [hend, Bool.and_true, decide_eq_true_eq]
    exact hresult _

theorem pluralWord_ne_self_of_byRules (hne : v ≠ []) (hcountable : ¬isListed uncountable v = true)
    (hrules : byRules v ≠ v) : pluralWord v ≠ v := by
  by_cases hoes : isListed oesNouns v = true
  · rw [pluralWord, if_pos hoes]
    simp
  · rwa [pluralWord_eq_byRules hoes hne hcountable fun h => absurd h hrules]

/-! ### Words that are their own plural -/

/-- A word in small letters, or with a capital in front of small letters. -/
def IsLow (w : Text) : Prop :=
  (∀ c ∈ w, isSmall c = true) ∨
    ∃ c rest, w = c :: rest ∧ isCapital c = true ∧ rest ≠ [] ∧ ∀ d ∈ rest, isSmall d = true

theorem small_of_isSmall (h : ∀ c ∈ s, isSmall c = true) : small s = s :=
  map_toLower_of_not_isCapital fun c hc => not_isCapital_of_isSmall (h c hc)

theorem IsLow.tail (h : IsLow w) : ∀ c ∈ w.tail, isSmall c = true := by
  rcases h with h | ⟨c, rest, rfl, -, -, hrest⟩
  · exact fun c hc => h c (List.mem_of_mem_tail hc)
  · exact hrest

/-- Nothing is changed in a word with small letters: the ending is replaced by itself. -/
def Form.keeps (f : Form) : Bool :=
  f.ending == f.added && f.ending.tail.all isSmall &&
    (f.strict || f.ending.all isSmall && (!f.stem.isEmpty || decide (f.ending.length ≤ 1)))

theorem Form.Gives.eq_of_keeps {f : Form} (h : f.Gives v res) (hkeeps : f.keeps = true)
    (hv : IsLow v) : res = v := by
  obtain ⟨b, t, rfl, hsmall, hstrict, hstem, -, rfl⟩ := h
  simp only [keeps, Bool.and_eq_true, beq_iff_eq, List.all_eq_true, Bool.or_eq_true,
    Bool.not_eq_true', List.isEmpty_eq_false_iff, decide_eq_true_eq] at hkeeps
  obtain ⟨⟨hadded, htail⟩, hhead⟩ := hkeeps
  rw [← hadded, List.append_cancel_left_eq]
  have htails : t.tail = f.ending.tail := by
    have ht : ∀ c ∈ t.tail, isSmall c = true := by
      cases b with
      | nil => exact hv.tail
      | cons c more => exact fun d hd => hv.tail d (by simp [List.mem_of_mem_tail hd])
    have hsmalls : small t.tail = small f.ending.tail := by
      simpa [small, List.map_tail] using congrArg List.tail hsmall
    rwa [small_of_isSmall ht, small_of_isSmall htail] at hsmalls
  rcases hends : f.ending with _ | ⟨d, more⟩
  · rw [hends] at hsmall
    simpa [small] using hsmall.symm
  rcases t with _ | ⟨c, rest⟩
  · rw [hends] at hsmall
    simp [small] at hsmall
  rw [hends] at htails hhead hsmall
  obtain rfl : rest = more := htails
  rw [List.cons.injEq]
  refine ⟨?_, rfl⟩
  rcases hhead with hf | ⟨hletters, hfront⟩
  · have hfirst := hstrict hf
    rw [hends] at hfirst
    exact (Option.some.inj hfirst).symm
  · -- the first letter is small as well: it is not the first one of the word, or the only one
    have hd : isSmall d = true := hletters d List.mem_cons_self
    have hcd : c.toLower = d := by
      have hheads : c.toLower = d.toLower := (List.cons.inj hsmall).1
      rwa [toLower_of_not_isCapital (not_isCapital_of_isSmall hd)] at hheads
    have hc : ¬isCapital c = true := by
      intro hcapital
      rcases hv with hall | ⟨x, tail, heq, -, hne, htail⟩
      · exact not_isCapital_of_isSmall (hall c (by simp)) hcapital
      · rcases b with _ | ⟨y, b⟩
        · obtain ⟨rfl, rfl⟩ := List.cons.inj heq
          rcases hfront with hstems | hlength
          · exact hstems (List.suffix_nil.mp hstem)
          · exact hne (List.length_eq_zero_iff.mp (by simpa using hlength))
        · obtain ⟨rfl, rfl⟩ := List.cons.inj heq
          exact not_isCapital_of_isSmall (htail c (by simp)) hcapital
    rw [← hcd, toLower_of_not_isCapital hc]

/-- Whether a word that ends in these letters, or, if `whole`, is them, stays as it is, if it has
small letters: the forms that may apply to it replace an ending by itself. -/
def settles (whole : Bool) (t : Text) : Bool :=
  ("us" :: oesNouns).all (fun word => !meets word.toList t) &&
    (firstForms whole t).all Form.keeps

theorem pluralWord_of_settles (whole : Bool) (hs : settles whole t = true)
    (ht : t <:+ small v) (hw : whole = true → small v = t) (hv : IsLow v) : pluralWord v = v := by
  simp only [settles, Bool.and_eq_true, List.all_eq_true, List.forall_mem_cons,
    Bool.not_eq_true'] at hs
  obtain ⟨⟨hus, hoes⟩, hkeeps⟩ := hs
  obtain ⟨f, hf, hgives⟩ := exists_firstForm whole ht hw
  exact pluralWord_eq_self (not_isListed_of_meets ht hoes) (hgives.eq_of_keeps (hkeeps f hf) hv)
    (not_suffix_of_meets hus ht)

/-! ### Words in `-s` -/

/-- The letters of a word in `-s` that is taken for a singular. -/
def isSingularInS (t : Text) : Bool :=
  ["ss", "sis", "us", "alias"].any (fun ending => ending.toList.isSuffixOf t) ||
    ["axis", "testis"].any fun word => word.toList = t

theorem isSingularInS_iff :
    isSingularInS t = true ↔ (Text.of "ss" <:+ t ∨ Text.of "sis" <:+ t ∨ Text.of "us" <:+ t ∨
      Text.of "alias" <:+ t) ∨ t = Text.of "axis" ∨ t = Text.of "testis" := by
  simp only [isSingularInS, Bool.or_eq_true, List.any_cons, List.any_nil, decide_eq_true_eq,
    List.isSuffixOf_iff_suffix, Bool.false_eq_true, or_false]
  rw [eq_comm (a := t), eq_comm (a := t)]
  exact Iff.rfl

/-- Whether the forms that may apply to a word that ends in these letters, or, if `whole`, is them,
all change it. -/
def changes (whole : Bool) (t : Text) : Bool :=
  (firstForms whole t).all fun f => decide (small f.ending ≠ small f.added)

theorem byRules_ne_self (whole : Bool) (h : changes whole t = true)
    (ht : t <:+ small v) (hw : whole = true → small v = t) : byRules v ≠ v := by
  obtain ⟨f, hf, b, e, hv, hsmall, -, -, -, hres⟩ := exists_firstForm whole ht hw
  intro heq
  rw [heq] at hres
  have hadded : e = f.added := List.append_cancel_left (hv.symm.trans hres)
  have hchanges := of_decide_eq_true (List.all_eq_true.mp h f hf)
  exact hchanges (hadded ▸ hsmall.symm)

/-- No word in the list is taken for a singular in `-s`. -/
theorem not_isListed_uncountable (h : isSingularInS (small v) = true) :
    ¬isListed uncountable v = true := by
  have hnone : ∀ word ∈ uncountable, isSingularInS word.toList = false := by decide
  intro hlisted
  obtain ⟨word, hword, hsame⟩ := isListed_iff.mp hlisted
  rw [hsame, hnone word hword] at h
  exact Bool.false_ne_true h

theorem pluralWord_ne_self (h : isSingularInS (small v) = true) : pluralWord v ≠ v := by
  have hne : v ≠ [] := by
    rintro rfl
    exact absurd h (by decide)
  have hends : ∀ t ∈ ["ss", "sis", "alias"], changes false t.toList = true := by decide
  have hwords : ∀ t ∈ ["axis", "testis"], changes true t.toList = true := by decide
  have hrules : ∀ (whole : Bool) {t : Text}, changes whole t = true → t <:+ small v →
      (whole = true → small v = t) → pluralWord v ≠ v := fun whole t hchanges ht hw =>
    pluralWord_ne_self_of_byRules hne (not_isListed_uncountable h)
      (byRules_ne_self whole hchanges ht hw)
  rcases isSingularInS_iff.mp h with (hss | hsis | hus | halias) | haxis | htestis
  · exact hrules false (hends "ss" (by simp)) hss (by simp)
  · exact hrules false (hends "sis" (by simp)) hsis (by simp)
  · exact pluralWord_ne_self_of_us hus
  · exact hrules false (hends "alias" (by simp)) halias (by simp)
  · exact hrules true (hwords "axis" (by simp)) (haxis ▸ List.suffix_refl _) fun _ => haxis
  · exact hrules true (hwords "testis" (by simp)) (htestis ▸ List.suffix_refl _) fun _ => htestis

theorem isSingularInS_of_suffix (h : isSingularInS s = true)
    (hs : s ≠ Text.of "axis" ∧ s ≠ Text.of "testis") (hst : s <:+ t) : isSingularInS t = true := by
  have hends := (isSingularInS_iff.mp h).resolve_right (not_or.mpr hs)
  refine isSingularInS_iff.mpr (Or.inl ?_)
  exact hends.imp (·.trans hst) (Or.imp (·.trans hst) (Or.imp (·.trans hst) (·.trans hst)))

/-- **A word in `-s` stays as it is**, unless its ending makes it a singular. -/
theorem pluralWord_eq_self_iff (hv : IsLow v) (hs : Text.of "s" <:+ small v) :
    pluralWord v = v ↔ isSingularInS (small v) = false := by
  rw [← Bool.not_eq_true]
  refine ⟨fun h hsingular => pluralWord_ne_self hsingular h, fun h => ?_⟩
  have hforms : ∀ f ∈ firstForms false (Text.of "s"), f.keeps = true ∨
      isSingularInS f.letters = true ∧
        (f.whole = true ∨ f.letters ≠ Text.of "axis" ∧ f.letters ≠ Text.of "testis") := by
    decide
  have hnouns : ∀ noun ∈ oesNouns, meets noun.toList (Text.of "s") = false := by decide
  obtain ⟨f, hf, hgives⟩ := exists_firstForm false hs (by simp)
  have hrules : byRules v = v := by
    rcases hforms f hf with hkeeps | ⟨hsingular, hwhole | hends⟩
    · exact hgives.eq_of_keeps hkeeps hv
    · exact absurd (hgives.letters_eq hwhole ▸ hsingular) h
    · exact absurd (isSingularInS_of_suffix hsingular hends hgives.letters_suffix) h
  refine pluralWord_eq_self (not_isListed_of_meets hs hnouns) hrules fun hus => ?_
  exact h (isSingularInS_iff.mpr (Or.inl (Or.inr (Or.inr (Or.inl hus)))))

theorem suffix_concat_iff {c : Char} : s ++ [c] <:+ t ++ [c] ↔ s <:+ t := by
  constructor
  · rintro ⟨m, hm⟩
    rw [← List.append_assoc] at hm
    exact ⟨m, List.append_cancel_right hm⟩
  · rintro ⟨m, rfl⟩
    exact ⟨m, by simp⟩

theorem isSingularInS_append_iff :
    isSingularInS (t ++ ['s']) = true ↔ (Text.of "s" <:+ t ∨ Text.of "si" <:+ t ∨
      Text.of "u" <:+ t ∨ Text.of "alia" <:+ t) ∨ t = Text.of "axi" ∨ t = Text.of "testi" := by
  have haxis : t ++ ['s'] = Text.of "axis" ↔ t = Text.of "axi" :=
    @List.append_left_inj _ t (Text.of "axi") ['s']
  have htestis : t ++ ['s'] = Text.of "testis" ↔ t = Text.of "testi" :=
    @List.append_left_inj _ t (Text.of "testi") ['s']
  rw [isSingularInS_iff, haxis, htestis, ← suffix_concat_iff (c := 's') (t := t),
    ← suffix_concat_iff (c := 's') (t := t), ← suffix_concat_iff (c := 's') (t := t),
    ← suffix_concat_iff (c := 's') (t := t)]
  exact Iff.rfl

theorem isSingularInS_two : isSingularInS [c, 's'] = true ↔ c = 's' ∨ c = 'u' := by
  rw [show [c, 's'] = [c] ++ ['s'] from rfl, isSingularInS_append_iff, eq_comm (a := c),
    eq_comm (a := c)]
  simp [List.suffix_cons_iff, Text.of]

/-- Whether nothing else can be done with a word that ends in these letters than to add an `s`. -/
def takesS (t : Text) : Bool :=
  (oesNouns ++ uncountable ++ ["us"]).all (fun word => !meets word.toList t) &&
    (firstForms false t).all fun f => f.ending.isEmpty && decide (f.added = ['s'])

theorem pluralWord_of_takesS (h : takesS t = true) (ht : t <:+ small w) :
    pluralWord w = w ++ ['s'] := by
  have hne : w ≠ [] := by
    rintro rfl
    rw [List.suffix_nil.mp ht] at h
    exact absurd h (by decide)
  simp only [takesS, Bool.and_eq_true, List.all_eq_true, Bool.not_eq_true', decide_eq_true_eq,
    List.isEmpty_iff] at h
  obtain ⟨hwords, hforms⟩ := h
  have hrules : byRules w = w ++ ['s'] := by
    obtain ⟨f, hf, b, e, rfl, hsmall, -, -, -, hres⟩ := exists_firstForm false ht (by simp)
    obtain ⟨hending, hadded⟩ := hforms f hf
    rw [hending] at hsmall
    rw [hres, hadded, List.map_eq_nil_iff.mp hsmall, List.append_nil]
  have hunlisted : ∀ words ⊆ oesNouns ++ uncountable ++ ["us"], ¬isListed words w = true :=
    fun words hsub => not_isListed_of_meets ht fun word hword => hwords word (hsub hword)
  rw [← hrules]
  exact pluralWord_eq_byRules (hunlisted oesNouns (by simp)) hne (hunlisted uncountable (by simp))
    fun _ => not_suffix_of_meets (hwords "us" (by simp)) ht

/-- Words with these endings are in the plural, or get another one. -/
theorem byRules_ne_append_s (h : Text.of "s" <:+ small w ∨ Text.of "alia" <:+ small w) :
    byRules w ≠ w ++ ['s'] := by
  have hforms : ∀ t ∈ [Text.of "s", Text.of "alia"], ∀ f ∈ firstForms false t,
      small f.added ≠ small f.ending ++ ['s'] := by
    decide
  obtain ⟨t, ht, hsuffix⟩ : ∃ t ∈ [Text.of "s", Text.of "alia"], t <:+ small w := by simpa using h
  obtain ⟨f, hf, b, e, rfl, hsmall, -, -, -, hres⟩ := exists_firstForm false hsuffix (by simp)
  intro hrules
  rw [hres, List.append_assoc] at hrules
  refine hforms t ht f hf ?_
  rw [List.append_cancel_left hrules, small_append, hsmall]
  rfl

end Words

end Scaffold
