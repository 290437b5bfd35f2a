import Scaffold.Proofs.Words.LastWord

/-!
# Plurals of plurals

The plural of a plural is mostly the plural itself, as the last word of the plural is a word that no
rule changes. It is not for the singulars that get an `s` and then end like another singular in
`-s` (in `-us` and `-sis`, or as the words `axis` and `testis`), and not for words in capitals
that a rule adds small letters to such that they and the last capital are a word with a plural of
its own. These are all: `plural_plural_iff` tells exactly which texts have a plural with another
plural.

A text is looked at through its last word, and what stands before it. The last word of the plural
may begin earlier or later than that of the text: small letters in place of the end of a word with
small letters leave it where it is, but behind capitals they begin a new word with the last capital,
and a single capital `S` that becomes small joins the small letters before it.

## Main definitions

* `Words.isUnsettledLow`, `Words.isUnsettledCapital` — the letters of a word with small letters, or
  in capitals, whose plural has another plural
* `Words.isUnsettledText` — the plural of a text has another plural

## Main results

* `plural_plural_of_isLow`, `plural_plural_of_capitals` — by the kind of the last word
* `plural_plural_iff` — for every text
-/

namespace Scaffold

namespace Words

variable {before b s t w res : Text} {c : Char}

/-! ### Small letters -/

/-- Whether a text ends in one of the endings. -/
def endsIn (endings : List String) (t : Text) : Bool := endings.any (·.toList.isSuffixOf t)

/-- The letters of a word whose plural is a word in `-s` that is taken for a singular. -/
def isUnsettledLow (t : Text) : Bool :=
  endsIn ["u", "si"] t || ["axi", "testi"].any (·.toList = t)

theorem plural_append_s_iff (h : IsLastWord before w) (hlow : IsLow w) :
    plural (before ++ (w ++ ['s'])) = before ++ (w ++ ['s']) ↔
      isSingularInS (small w ++ ['s']) = false := by
  rw [← List.append_nil w] at h hlow
  obtain ⟨hlast, hlow'⟩ :=
    h.replace hlow (by simpa using h.ne_nil) (List.cons_ne_nil 's' []) (by decide)
  have hsmall : small (w ++ ['s']) = small w ++ ['s'] := small_append w ['s']
  rw [plural_eq_self_iff hlast, pluralWord_eq_self_iff hlow' ⟨small w, hsmall.symm⟩, hsmall]

theorem isUnsettledLow_iff :
    isUnsettledLow t = true ↔ (Text.of "u" <:+ t ∨ Text.of "si" <:+ t) ∨
      t = Text.of "axi" ∨ t = Text.of "testi" := by
  simp only [isUnsettledLow, endsIn, Bool.or_eq_true, List.any_cons, List.any_nil,
    decide_eq_true_eq, List.isSuffixOf_iff_suffix, Bool.false_eq_true, or_false]
  rw [eq_comm (a := t), eq_comm (a := t)]
  exact Iff.rfl

theorem takesS_of_mem : ∀ t ∈ ["u", "si", "axi", "testi"], takesS t.toList = true := by
  decide

theorem pluralWord_of_isUnsettledLow (h : isUnsettledLow (small w) = true) :
    pluralWord w = w ++ ['s'] := by
  rcases isUnsettledLow_iff.mp h with (hu | hsi) | haxi | htesti
  · exact pluralWord_of_takesS (takesS_of_mem "u" (by simp)) hu
  · exact pluralWord_of_takesS (takesS_of_mem "si" (by simp)) hsi
  · exact pluralWord_of_takesS (takesS_of_mem "axi" (by simp)) (haxi ▸ List.suffix_refl _)
  · exact pluralWord_of_takesS (takesS_of_mem "testi" (by simp)) (htesti ▸ List.suffix_refl _)

/-- The rules that add an `s` to a word do not make a singular of it, unless it is in the list. -/
theorem isSingularInS_append_iff_isUnsettledLow (h : byRules w = w ++ ['s']) :
    isSingularInS (small w ++ ['s']) = true ↔ isUnsettledLow (small w) = true := by
  have hnot := mt (byRules_ne_append_s (w := w)) (not_not_intro h)
  rw [not_or] at hnot
  rw [isSingularInS_append_iff, isUnsettledLow_iff]
  simp only [hnot, false_or, or_false]
  rw [or_comm (a := Text.of "si" <:+ small w)]

/-- What a form does to a word with small letters: it leaves the word as it is, or what it adds is
the end of a word that stays as it is, with the letters in front or without them, or it adds an
`s`. -/
theorem forms_settle : ∀ f ∈ rules.flatMap Rule.forms, f.keeps = true ∨
    (f.added.all isSmall = true ∧ f.added ≠ [] ∧
      (settles false f.added = true ∨
        (f.stem ≠ [] ∧ settles false (f.stem ++ f.added) = true) ∨
        f.ending = [] ∧ f.added = ['s'] ∨
        f.whole = true ∧ f.stem ≠ [] ∧ settles true (f.stem ++ f.added) = true)) ∨
    f.added = Text.of "kine" ∨ f.added = Text.of "Kine" := by
  decide

/-- What the rules make of a word with small letters is its own plural, unless they add an `s`. -/
theorem plural_byRules_of_isLow (h : IsLastWord before w) (hlow : IsLow w)
    (hrules : pluralWord w = byRules w) (hadded : byRules w ≠ w ++ ['s']) :
    plural (before ++ byRules w) = before ++ byRules w := by
  obtain ⟨f, hf, hgives⟩ := exists_form w
  by_cases hkeeps : f.keeps = true
  · have hsame := hgives.eq_of_keeps hkeeps hlow
    rw [hsame]
    exact (plural_eq_self_iff h).mpr (hrules.trans hsame)
  have hform := (forms_settle f hf).resolve_left hkeeps
  obtain ⟨b, t, rfl, hsmall, -, hstem, hwhole, hres⟩ := hgives
  rw [hres]
  -- a stem makes sure that the first letter stays
  have hreplaced : f.stem ≠ [] → f.added ≠ [] → f.added.all isSmall = true →
      IsLastWord before (b ++ f.added) ∧ IsLow (b ++ f.added) := fun hne hadded hall => by
    refine h.replace hlow ?_ hadded hall
    rintro rfl
    exact hne (List.suffix_nil.mp hstem)
  have hend : f.added.all isSmall = true → f.stem ++ f.added <:+ small (b ++ f.added) :=
    fun hall => by
      obtain ⟨m, hm⟩ := hstem
      rw [small_append, small_of_isSmall (List.all_eq_true.mp hall), ← hm, List.append_assoc]
      exact ⟨m, rfl⟩
  rcases hform with ⟨hall, hne, hsettles | ⟨hstems, hsettles⟩ | ⟨hending, hs⟩ |
    ⟨hw, hstems, hsettles⟩⟩ | hkine | hKine
  · rw [← List.append_assoc]
    exact plural_append_of_settles hsettles hne hall _
  · obtain ⟨hlast, hlow'⟩ := hreplaced hstems hne hall
    exact (plural_eq_self_iff hlast).mpr
      (pluralWord_of_settles false hsettles (hend hall) (by simp) hlow')
  · rw [hending] at hsmall
    rw [hres, hs, List.map_eq_nil_iff.mp hsmall, List.append_nil] at hadded
    exact absurd rfl hadded
  · obtain ⟨hlast, hlow'⟩ := hreplaced hstems hne hall
    have hletters : small (b ++ f.added) = f.stem ++ f.added := by
      rw [small_append, small_of_isSmall (List.all_eq_true.mp hall), hwhole hw]
    exact (plural_eq_self_iff hlast).mpr
      (pluralWord_of_settles true hsettles (hend hall) (fun _ => hletters) hlow')
  · rw [hkine, ← List.append_assoc]
    exact plural_append_kine _
  · rw [hKine, ← List.append_assoc]
    exact plural_append_Kine _

theorem plural_plural_of_isLow (h : IsLastWord before w) (hlow : IsLow w) :
    plural (before ++ pluralWord w) = before ++ pluralWord w ↔
      isUnsettledLow (small w) = false := by
  by_cases hadded : pluralWord w = w ++ ['s']
  · have hrules : byRules w = w ++ ['s'] := by
      rcases pluralWord_cases w with hsame | hes | hrules
      · simp [hsame] at hadded
      · simp [hes, Text.of] at hadded
      · rw [← hrules, hadded]
    rw [hadded, plural_append_s_iff h hlow, ← Bool.not_eq_true, ← Bool.not_eq_true,
      isSingularInS_append_iff_isUnsettledLow hrules]
  refine iff_of_true ?_ (Bool.eq_false_iff.mpr (mt pluralWord_of_isUnsettledLow hadded))
  rcases pluralWord_cases w with hsame | hes | hrules
  · rw [hsame]
    exact (plural_eq_self_iff h).mpr hsame
  · rw [hes, ← List.append_assoc]
    exact plural_append_es _
  · rw [hrules] at hadded ⊢
    exact plural_byRules_of_isLow h hlow hrules hadded

/-! ### Capitals -/

/-- The endings of the irregular words in capitals that a rule adds letters to which have another
plural. -/
def unsettledEnds : List String := ["octopi", "viri", "passerby", "passersby"]

/-- The letters of a word in capitals whose plural ends in a shorter word, because the rule adds
small letters to it, and one that has another plural. -/
def isUnsettledCapital (t : Text) : Bool :=
  endsIn ("u" :: unsettledEnds) t || endsIn ["us"] t && !endsIn ["bus", "status"] t ||
    decide (t = Text.of "ox")

/-- Whether the plural of a text, told by its last word and what stands before it, has another
plural. -/
def isUnsettled (before w : Text) : Bool :=
  if w.all isCapital then
    isUnsettledCapital (small w) || decide (small w = Text.of "s") &&
      (splitLastWord? before).any fun x => isSingularInS (small x.2 ++ Text.of "s")
  else isUnsettledLow (small w)

theorem toUpper_toLower (h : isCapital c = true) : c.toLower.toUpper = c := by
  rw [← Char.toNat_inj, toNat_toUpper, if_pos (isSmall_toLower h), toNat_toLower, if_pos h]
  omega

/-- The capital that a stem ends with in a word in capitals, with small letters behind it. -/
def Form.lastWord (f : Form) : Text := (f.stem.getLast?.getD 'x').toUpper :: f.added

/-- What a rule adds to a word in capitals makes a word of its own, with the last capital in
front. -/
theorem Form.Gives.exists_lastWord {f : Form} (h : f.Gives w res)
    (hw : ∀ c ∈ w, isCapital c = true) (hstem : f.stem ≠ []) (hne : f.added ≠ [])
    (hall : f.added.all isSmall = true) (before : Text) :
    ∃ y, before ++ res = y ++ f.lastWord ∧ IsLastWord y f.lastWord := by
  obtain ⟨b, t, rfl, -, -, ⟨m, hm⟩, -, rfl⟩ := h
  rcases List.eq_nil_or_concat' b with rfl | ⟨front, c, rfl⟩
  · exact absurd (List.append_eq_nil_iff.mp hm).2 hstem
  have hc : isCapital c = true := hw c (by simp)
  have hlast : f.stem.getLast?.getD 'x' = c.toLower := by
    obtain ⟨s', d, hs'⟩ := (List.eq_nil_or_concat' f.stem).resolve_left hstem
    have hends := congrArg List.getLast? hm
    rw [hs', ← List.append_assoc, List.getLast?_concat, small_append] at hends
    have hd : d = c.toLower := by simpa [small] using hends
    rw [hs', List.getLast?_concat, Option.getD_some, hd]
  have hword : f.lastWord = c :: f.added := by rw [lastWord, hlast, toUpper_toLower hc]
  rw [hword]
  exact ⟨before ++ front, by simp, .capitalized hc hne (List.all_eq_true.mp hall)⟩

theorem isUnsettledCapital_iff :
    isUnsettledCapital t = true ↔
      (Text.of "u" <:+ t ∨ ∃ e ∈ unsettledEnds, e.toList <:+ t) ∨
      (Text.of "us" <:+ t ∧ ¬Text.of "bus" <:+ t ∧ ¬Text.of "status" <:+ t) ∨ t = Text.of "ox" := by
  simp only [isUnsettledCapital, endsIn, Bool.or_eq_true, List.any_cons, List.any_nil,
    decide_eq_true_eq, List.isSuffixOf_iff_suffix, Bool.false_eq_true, or_false,
    Bool.and_eq_true, Bool.not_eq_true', ← Bool.not_eq_true, not_or, List.any_eq_true]
  rw [or_assoc]
  exact Iff.rfl

/-- The letters of a form that leaves a word in capitals with another plural behind it. -/
def Form.unsettles (f : Form) : Bool :=
  unsettledEnds.any (·.toList = f.letters) ||
    endsIn ["us"] f.letters && !meets (Text.of "bus") f.letters &&
      !meets (Text.of "status") f.letters ||
    f.whole && decide (f.letters = Text.of "ox")

/-- What a form does to a word in capitals: nothing, or what it adds is the end of a word that stays
as it is, or begins a word with the last capital of the stem, or is an `s` behind any capital, or
the form applies to no such word. -/
theorem forms_capital : ∀ f ∈ rules.flatMap Rule.forms, (f.ending = [] ∧ f.added = []) ∨
    (f.added.all isSmall = true ∧ f.added ≠ [] ∧
      (settles false f.added = true ∨
        (f.stem ≠ [] ∧ (pluralWord f.lastWord = f.lastWord ↔ f.unsettles = false)) ∨
        f.stem = [] ∧ (f.ending = [] ∨ f.ending = ['s']) ∧ f.added = ['s'])) ∨
    f.added = Text.of "Kine" ∨ f.strict = true ∧ f.ending.head?.any isSmall = true := by
  decide

theorem singleton_suffix_concat_iff {d : Char} : [d] <:+ s ++ [c] ↔ d = c := by
  refine ⟨fun ⟨m, hm⟩ => ?_, fun h => ⟨s, by rw [h]⟩⟩
  exact List.singleton_inj.mp (List.append_inj_right' hm rfl)

/-- An `s` behind capitals makes a word of two letters, the last capital and the `s`. -/
theorem plural_append_s_iff_of_capitals (hw : ∀ c ∈ w, isCapital c = true) (hne : w ≠ [])
    (before : Text) :
    plural (before ++ (w ++ ['s'])) = before ++ (w ++ ['s']) ↔
      ¬Text.of "s" <:+ small w ∧ ¬Text.of "u" <:+ small w := by
  obtain ⟨front, c, rfl⟩ := (List.eq_nil_or_concat' w).resolve_left hne
  have hc : isCapital c = true := hw c (by simp)
  have hs : ∀ d ∈ ['s'], isSmall d = true := List.all_eq_true.mp (by decide)
  have hlast : IsLastWord (before ++ front) [c, 's'] := .capitalized hc (List.cons_ne_nil _ _) hs
  have hlow : IsLow [c, 's'] := Or.inr ⟨c, ['s'], rfl, hc, List.cons_ne_nil _ _, hs⟩
  have hsplit : before ++ (front ++ [c] ++ ['s']) = before ++ front ++ [c, 's'] := by simp
  have hends : ∀ d, [d] <:+ small (front ++ [c]) ↔ c.toLower = d := fun d => by
    rw [small_append, eq_comm]
    exact singleton_suffix_concat_iff
  have hsingular : isSingularInS (small [c, 's']) = true ↔
      Text.of "s" <:+ small (front ++ [c]) ∨ Text.of "u" <:+ small (front ++ [c]) :=
    isSingularInS_two.trans (or_congr (hends 's').symm (hends 'u').symm)
  rw [hsplit, plural_eq_self_iff hlast, pluralWord_eq_self_iff hlow ⟨[c.toLower], rfl⟩,
    ← Bool.not_eq_true, hsingular, not_or]

/-- What a rule adds to a word in capitals with these letters in this form has another plural. -/
def Form.leavesPlural (f : Form) : Bool :=
  !f.stem.isEmpty && !f.added.isEmpty && f.added.all isSmall &&
    decide (pluralWord f.lastWord ≠ f.lastWord)

theorem Form.leavesPlural_iff {f : Form} :
    f.leavesPlural = true ↔ f.stem ≠ [] ∧ f.added ≠ [] ∧ f.added.all isSmall = true ∧
      pluralWord f.lastWord ≠ f.lastWord := by
  simp only [leavesPlural, Bool.and_eq_true, Bool.not_eq_true', List.isEmpty_eq_false_iff,
    decide_eq_true_eq, and_assoc]

theorem Form.Gives.plural_ne {f : Form} (h : f.Gives w res) (hw : ∀ c ∈ w, isCapital c = true)
    (hf : f.leavesPlural = true) (before : Text) : plural (before ++ res) ≠ before ++ res := by
  obtain ⟨hstem, hne, hall, hplural⟩ := leavesPlural_iff.mp hf
  obtain ⟨y, heq, hlast⟩ := h.exists_lastWord hw hstem hne hall before
  rwa [heq, Ne, plural_eq_self_iff hlast]

/-- A word in capitals is changed by every rule that adds letters. -/
theorem Form.Gives.pluralWord_eq {f : Form} (h : f.Gives w (byRules w))
    (hw : ∀ c ∈ w, isCapital c = true) (hwne : w ≠ []) (hne : f.added ≠ [])
    (hall : f.added.all isSmall = true) (ht : t <:+ small w)
    (hlists : ∀ word ∈ oesNouns ++ uncountable, meets word.toList t = false) :
    pluralWord w = byRules w := by
  obtain ⟨b, e, heq, -, -, -, -, hres⟩ := h
  have hchanged : byRules w ≠ w := by
    intro hsame
    rw [hsame, heq] at hres
    obtain ⟨c, hc⟩ := List.exists_mem_of_ne_nil _ hne
    have hcapital := hw c (by rw [heq, List.append_cancel_left hres]; simp [hc])
    exact not_isCapital_of_isSmall (List.all_eq_true.mp hall c hc) hcapital
  have hunlisted : ∀ words ⊆ oesNouns ++ uncountable, ¬isListed words w = true :=
    fun words hwords => not_isListed_of_meets ht fun word hword => hlists word (hwords hword)
  exact pluralWord_eq_byRules (hunlisted oesNouns (by simp)) hwne (hunlisted uncountable (by simp))
    fun hsame => absurd hsame hchanged

/-- Whether a word in capitals that ends in these letters, or, if `whole`, is them, gets a plural
that has another one: the forms that may apply to it leave another plural. -/
def leavesPlural (whole : Bool) (t : Text) : Bool :=
  (oesNouns ++ uncountable).all (fun word => !meets word.toList t) &&
    (firstForms whole t).all Form.leavesPlural

theorem plural_ne_of_leavesPlural (whole : Bool) (h : leavesPlural whole t = true)
    (hw : ∀ c ∈ w, isCapital c = true) (hne : w ≠ []) (ht : t <:+ small w)
    (hwhole : whole = true → small w = t) (before : Text) :
    plural (before ++ pluralWord w) ≠ before ++ pluralWord w := by
  simp only [leavesPlural, Bool.and_eq_true, List.all_eq_true, Bool.not_eq_true'] at h
  obtain ⟨hlists, hforms⟩ := h
  obtain ⟨f, hf, hgives⟩ := exists_firstForm whole ht hwhole
  obtain ⟨-, hadded, hall, -⟩ := Form.leavesPlural_iff.mp (hforms f hf)
  rw [hgives.pluralWord_eq hw hne hadded hall ht hlists]
  exact hgives.plural_ne hw (hforms f hf) before

/-- Nearly all words in `-US` keep the last but one letter, with an `s` behind it, or get an `i`. -/
theorem plural_ne_of_us (hw : ∀ c ∈ w, isCapital c = true) (hne : w ≠ [])
    (hus : Text.of "us" <:+ small w) (hbus : ¬Text.of "bus" <:+ small w)
    (hstatus : ¬Text.of "status" <:+ small w) (before : Text) :
    plural (before ++ pluralWord w) ≠ before ++ pluralWord w := by
  have hforms : ∀ f ∈ firstForms false (Text.of "us"),
      f.letters = Text.of "bus" ∨ f.letters = Text.of "status" ∨ f.leavesPlural = true ∨
        f.ending = ['s'] ∧ f.added = ['s'] := by
    decide
  have hlists : ∀ word ∈ oesNouns ++ uncountable, meets word.toList (Text.of "us") = false := by
    decide
  obtain ⟨f, hf, hgives⟩ := exists_firstForm false hus (by simp)
  rcases hforms f hf with hletters | hletters | hleaves | ⟨hending, hadded⟩
  · exact absurd (hletters ▸ hgives.letters_suffix) hbus
  · exact absurd (hletters ▸ hgives.letters_suffix) hstatus
  · obtain ⟨-, hadded, hall, -⟩ := Form.leavesPlural_iff.mp hleaves
    rw [hgives.pluralWord_eq hw hne hadded hall hus hlists]
    exact hgives.plural_ne hw hleaves before
  rw [hgives.pluralWord_eq hw hne (by simp [hadded]) (by rw [hadded]; decide) hus hlists]
  obtain ⟨b, t, rfl, hsmall, -, -, -, hres⟩ := hgives
  rw [hending] at hsmall
  have hu : Text.of "u" <:+ small b := by
    rw [small_append, hsmall] at hus
    exact suffix_concat_iff.mp hus
  have hb : b ≠ [] := by
    rintro rfl
    exact absurd hu (by decide)
  rw [hres, hadded, Ne, plural_append_s_iff_of_capitals (fun c hc => hw c (by simp [hc])) hb]
  exact fun hsettled => hsettled.2 hu

/-- One capital `S` behind small letters makes a word in `-s` of them. -/
theorem plural_single_s_iff (hbefore : ∀ c ∈ before.getLast?, ¬isCapital c = true) :
    plural (before ++ ['s']) = before ++ ['s'] ↔
      ((splitLastWord? before).any fun x => isSingularInS (small x.2 ++ Text.of "s")) = false := by
  have hs : ∀ c ∈ ['s'], isSmall c = true := List.all_eq_true.mp (by decide)
  cases hsplit : splitLastWord? before with
  | none =>
    have hlast : IsLastWord before ['s'] :=
      .smalls (List.cons_ne_nil _ _) hs (getLast?_of_splitLastWord? hsplit)
    rw [plural_eq_self_iff hlast]
    have hself := pluralWord_eq_self_iff (Or.inl hs) (List.suffix_refl _)
    exact iff_of_true (hself.mpr (by decide)) rfl
  | some x =>
    obtain ⟨rfl, hlast⟩ := isLastWord_of_splitLastWord? hsplit
    have hlow : IsLow x.2 := hlast.isLow_or.resolve_right fun hcapitals => by
      obtain ⟨front, c, hc⟩ := (List.eq_nil_or_concat' x.2).resolve_left hlast.ne_nil
      refine hbefore c ?_ (hcapitals c (by simp [hc]))
      rw [hc, ← List.append_assoc, List.getLast?_concat]
      exact rfl
    rw [List.append_assoc]
    exact plural_append_s_iff hlast hlow

theorem Form.Gives.length_eq {f : Form} (h : f.Gives w res) :
    res.length + f.ending.length = w.length + f.added.length := by
  obtain ⟨b, t, rfl, hsmall, -, -, -, rfl⟩ := h
  have hlength : t.length = f.ending.length := by
    simpa [small] using congrArg List.length hsmall
  rw [List.length_append, List.length_append, hlength]
  omega

/-- Words with these endings become longer. -/
theorem length_byRules_ne (h : Text.of "ss" <:+ small w ∨ Text.of "bus" <:+ small w ∨
    Text.of "status" <:+ small w) : (byRules w).length ≠ w.length := by
  have hforms : ∀ t ∈ [Text.of "ss", Text.of "bus", Text.of "status"], ∀ f ∈ firstForms false t,
      f.added.length ≠ f.ending.length := by
    decide
  obtain ⟨t, ht, hsuffix⟩ :
      ∃ t ∈ [Text.of "ss", Text.of "bus", Text.of "status"], t <:+ small w := by
    simpa using h
  obtain ⟨f, hf, hgives⟩ := exists_firstForm false hsuffix (by simp)
  have hlength := hgives.length_eq
  have hne := hforms t ht f hf
  omega

theorem Form.Gives.not_unsettles {f : Form} (h : f.Gives w res)
    (hsettled : ¬isUnsettledCapital (small w) = true) : f.unsettles = false := by
  rw [← Bool.not_eq_true]
  intro hf
  refine hsettled (isUnsettledCapital_iff.mpr ?_)
  simp only [Form.unsettles, endsIn, Bool.or_eq_true, Bool.and_eq_true, List.any_cons, List.any_nil,
    List.any_eq_true, decide_eq_true_eq, Bool.not_eq_true', Bool.or_false,
    List.isSuffixOf_iff_suffix] at hf
  have hsuffix := h.letters_suffix
  rcases hf with (⟨e, he, heq⟩ | ⟨⟨hus, hbus⟩, hstatus⟩) | ⟨hwhole, hox⟩
  · exact Or.inl (Or.inr ⟨e, he, heq ▸ hsuffix⟩)
  · exact Or.inr (Or.inl ⟨hus.trans hsuffix, not_suffix_of_meets hbus hsuffix,
      not_suffix_of_meets hstatus hsuffix⟩)
  · exact Or.inr (Or.inr ((h.letters_eq hwhole).trans hox))

/-- A capital `S` at the end that becomes small. -/
theorem plural_replaced_s (hw : ∀ c ∈ b ++ t, isCapital c = true) (ht : small t = ['s'])
    (hs : small (b ++ t) ≠ Text.of "s") (hsettled : ¬isUnsettledCapital (small (b ++ t)) = true)
    (hrules : byRules (b ++ t) = b ++ ['s']) (before : Text) :
    plural (before ++ (b ++ ['s'])) = before ++ (b ++ ['s']) := by
  have hsmall : small (b ++ t) = small b ++ ['s'] := by rw [small_append, ht]
  have hne : b ≠ [] := by
    rintro rfl
    exact hs hsmall
  have hlength : (byRules (b ++ t)).length = (b ++ t).length := by
    have htlength : t.length = 1 := by simpa [small] using congrArg List.length ht
    rw [hrules, List.length_append, List.length_append, htlength, List.length_singleton]
  have hlonger := mt (length_byRules_ne (w := b ++ t)) (not_not_intro hlength)
  rw [not_or, not_or, hsmall] at hlonger
  rw [plural_append_s_iff_of_capitals (fun c hc => hw c (by simp [hc])) hne]
  refine ⟨fun hend => hlonger.1 (suffix_concat_iff.mpr hend), fun hend => hsettled ?_⟩
  have hus : Text.of "us" <:+ small b ++ ['s'] := suffix_concat_iff.mpr hend
  rw [hsmall]
  exact isUnsettledCapital_iff.mpr (Or.inr (Or.inl ⟨hus, hlonger.2⟩))

/-- What the rules make of a word in capitals is its own plural, unless the letters of the word tell
otherwise. -/
theorem plural_byRules_of_settled (h : IsLastWord before w) (hw : ∀ c ∈ w, isCapital c = true)
    (hs : small w ≠ Text.of "s") (hsettled : ¬isUnsettledCapital (small w) = true)
    (hrules : pluralWord w = byRules w) : plural (before ++ byRules w) = before ++ byRules w := by
  obtain ⟨f, hf, hgives⟩ := exists_form w
  have hform := forms_capital f hf
  have hunsettles := hgives.not_unsettles hsettled
  have hfixed := fun hstem => hgives.exists_lastWord hw hstem
  obtain ⟨b, t, rfl, hsmall, hstrict, -, -, hres⟩ := hgives
  have hnil : f.ending = [] → t = [] := fun hending => by
    rw [hending] at hsmall
    exact List.map_eq_nil_iff.mp hsmall
  rw [hres]
  rcases hform with ⟨hending, hadded⟩ | ⟨hall, hne, hsettles | ⟨hstem, hlast⟩ |
    ⟨-, hending | hending, hadded⟩⟩ | hKine | ⟨hf, hhead⟩
  · have hsame : b ++ f.added = b ++ t := by rw [hadded, hnil hending]
    rw [hsame, plural_eq_self_iff h, hrules, hres, hsame]
  · rw [← List.append_assoc]
    exact plural_append_of_settles hsettles hne hall _
  · obtain ⟨y, heq, hword⟩ := hfixed hstem hne hall before
    rw [← hres, heq, plural_eq_self_iff hword]
    exact hlast.mpr hunsettles
  · -- an `s` is added only to a word that does not end in one
    obtain rfl := hnil hending
    rw [List.append_nil, hadded] at hres
    rw [List.append_nil] at hsettled hw h
    rw [hadded, plural_append_s_iff_of_capitals hw h.ne_nil]
    exact ⟨fun hend => byRules_ne_append_s (Or.inl hend) hres, fun hend =>
      hsettled (isUnsettledCapital_iff.mpr (Or.inl (Or.inl hend)))⟩
  · rw [hadded] at hres ⊢
    rw [hending] at hsmall
    exact plural_replaced_s hw hsmall hs hsettled hres before
  · rw [hKine, ← List.append_assoc]
    exact plural_append_Kine _
  · -- a rule for a small first letter does not apply
    rw [← hstrict hf, Option.any_eq_true] at hhead
    obtain ⟨d, hd, hdsmall⟩ := hhead
    have hdt : d ∈ t := List.mem_of_mem_head? hd
    exact absurd (hw d (by simp [hdt])) (not_isCapital_of_isSmall hdsmall)

theorem plural_plural_of_settled (h : IsLastWord before w) (hw : ∀ c ∈ w, isCapital c = true)
    (hs : small w ≠ Text.of "s") (hsettled : ¬isUnsettledCapital (small w) = true) :
    plural (before ++ pluralWord w) = before ++ pluralWord w := by
  rcases pluralWord_cases w with hsame | hes | hrules
  · rw [hsame]
    exact (plural_eq_self_iff h).mpr hsame
  · rw [hes, ← List.append_assoc]
    exact plural_append_es _
  · rw [hrules]
    exact plural_byRules_of_settled h hw hs hsettled hrules

/-- A word in capitals with these letters has a plural with another plural. -/
theorem plural_plural_of_unsettled (h : IsLastWord before w) (hw : ∀ c ∈ w, isCapital c = true)
    (hunsettled : isUnsettledCapital (small w) = true) :
    plural (before ++ pluralWord w) ≠ before ++ pluralWord w := by
  have hleaves : (∀ e ∈ unsettledEnds, leavesPlural false e.toList = true) ∧
      leavesPlural true (Text.of "ox") = true := by
    decide
  rcases isUnsettledCapital_iff.mp hunsettled with (hu | ⟨e, he, hend⟩) |
    ⟨hus, hbus, hstatus⟩ | hox
  · rw [pluralWord_of_takesS (takesS_of_mem "u" (by simp)) hu, Ne,
      plural_append_s_iff_of_capitals hw h.ne_nil]
    exact fun hsettled => hsettled.2 hu
  · exact plural_ne_of_leavesPlural false (hleaves.1 e he) hw h.ne_nil hend (by simp) before
  · exact plural_ne_of_us hw h.ne_nil hus hbus hstatus before
  · exact plural_ne_of_leavesPlural true hleaves.2 hw h.ne_nil
      (hox ▸ List.suffix_refl _) (fun _ => hox) before

theorem IsLastWord.getLast?_of_single (h : IsLastWord before ['S']) :
    ∀ c ∈ before.getLast?, ¬isCapital c = true := by
  cases h with
  | smalls _ hw => exact absurd (hw 'S' List.mem_cons_self) (by decide)
  | capitalized _ hne => exact absurd rfl hne
  | capitals _ _ hbefore => exact hbefore

theorem plural_plural_of_capitals (h : IsLastWord before w) (hw : ∀ c ∈ w, isCapital c = true) :
    plural (before ++ pluralWord w) = before ++ pluralWord w ↔ isUnsettled before w = false := by
  rw [isUnsettled, if_pos (List.all_eq_true.mpr hw)]
  by_cases hs : small w = Text.of "s"
  · obtain ⟨c, rfl, hc⟩ : ∃ c, w = [c] ∧ c.toLower = 's' := List.map_eq_singleton_iff.mp hs
    obtain rfl : c = 'S' := by
      rw [← toUpper_toLower (hw c List.mem_cons_self), hc]
      decide
    have hplural : pluralWord ['S'] = ['s'] := by decide
    have hsettled : isUnsettledCapital (small ['S']) = false := by decide
    rw [hplural, plural_single_s_iff h.getLast?_of_single, hsettled, decide_eq_true hs,
      Bool.false_or, Bool.true_and]
  rw [decide_eq_false hs, Bool.false_and, Bool.or_false]
  by_cases hunsettled : isUnsettledCapital (small w) = true
  · exact iff_of_false (plural_plural_of_unsettled h hw hunsettled) (by simp [hunsettled])
  · exact iff_of_true (plural_plural_of_settled h hw hs hunsettled) (by simpa using hunsettled)

/-! ### Any text -/

/-- Whether the plural of a text has another plural, told by its last word. As for the plural, one
line feed at the end is left out. -/
def isUnsettledText (s : Text) : Bool :=
  (splitLastWord? (if s.getLast? = some '\n' then s.dropLast else s)).any fun x =>
    isUnsettled x.1 x.2

theorem plural_plural_of_isLastWord (h : IsLastWord before w) :
    plural (before ++ pluralWord w) = before ++ pluralWord w ↔ isUnsettled before w = false := by
  rcases h.isLow_or with hlow | hcapitals
  · have hnot : ¬w.all isCapital = true := fun hall =>
      hlow.not_capitals h.ne_nil (List.all_eq_true.mp hall)
    rw [plural_plural_of_isLow h hlow, isUnsettled, if_neg hnot]
  · exact plural_plural_of_capitals h hcapitals

/-- **The plural of a plural** is the plural itself, unless the last word is one of the singulars
whose plural is taken for another singular. -/
theorem plural_plural_iff (s : Text) :
    plural (plural s) = plural s ↔ isUnsettledText s = false := by
  rw [isUnsettledText]
  generalize hbody : (if s.getLast? = some '\n' then s.dropLast else s) = body
  cases hsplit : splitLastWord? body with
  | none =>
    have hsame : plural s = s := by simp only [plural, hbody, hsplit]
    exact iff_of_true (by rw [hsame, hsame]) rfl
  | some x =>
    obtain ⟨-, hlast⟩ := isLastWord_of_splitLastWord? hsplit
    have hplural : plural s = x.1 ++ pluralWord x.2 := by simp only [plural, hbody, hsplit]
    rw [hplural]
    exact plural_plural_of_isLastWord hlast

/-- A singular in `-u` has a plural in `-us`, which is taken for a singular. -/
theorem plural_plural_fails :
    plural (plural (Text.of "menu")) ≠ plural (Text.of "menu") := by
  decide

end Words

end Scaffold
