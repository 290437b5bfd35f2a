import Scaffold.Proofs.Words.Rule

/-!
# The last word of a text

Only the last word of a text is put in the plural. Which letters at the end of a text are its last
word depends on what stands before them: small letters go on to the left, up to a capital that
belongs to them, and capitals go on to the left as long as there are any. So small letters behind
any text end a word with small letters, and in place of the end of such a word they end the same
word.

## Main definitions

* `Words.IsLastWord` — a word is the last one of a text, given what stands before it

## Main results

* `splitLastWord?_of_isLastWord`, `isLastWord_of_splitLastWord?` — the last word is found
* `plural_of_isLastWord` — only the last word is put in the plural
* `plural_append_of_settles` — texts with an ending that makes them their own plural
-/

namespace Scaffold

namespace Words

variable {before b s t v w : Text} {c : Char}

/-- A word is the last one of a text when the letters that stand before it do not belong to it. -/
inductive IsLastWord (before : Text) : Text → Prop
  | smalls {w : Text} (hne : w ≠ []) (hw : ∀ c ∈ w, isSmall c = true)
      (hbefore : ∀ c ∈ before.getLast?, ¬isSmall c = true ∧ ¬isCapital c = true) :
      IsLastWord before w
  | capitalized {c : Char} {rest : Text} (hc : isCapital c = true) (hne : rest ≠ [])
      (hrest : ∀ d ∈ rest, isSmall d = true) : IsLastWord before (c :: rest)
  | capitals {w : Text} (hne : w ≠ []) (hw : ∀ c ∈ w, isCapital c = true)
      (hbefore : ∀ c ∈ before.getLast?, ¬isCapital c = true) : IsLastWord before w

theorem takeWhile_reverse_append (p : Char → Bool) (hw : ∀ c ∈ w, p c = true)
    (hbefore : ∀ c ∈ before.getLast?, ¬p c = true) :
    (before ++ w).reverse.takeWhile p = w.reverse := by
  rw [List.reverse_append, List.takeWhile_append_of_pos (by simpa using hw)]
  rcases List.eq_nil_or_concat' before with rfl | ⟨front, d, rfl⟩
  · simp
  · simpa using hbefore d (by simp)

theorem splitLastWord?_of_isLastWord (h : IsLastWord before w) :
    splitLastWord? (before ++ w) = some (before, w) := by
  cases h with
  | smalls hne hw hbefore =>
    have hletters := takeWhile_reverse_append isSmall hw fun c hc => (hbefore c hc).1
    rw [splitLastWord?, hletters, if_neg (by simpa using hne), List.reverse_append, List.drop_left]
    rcases List.eq_nil_or_concat' before with rfl | ⟨front, d, rfl⟩
    · simp
    · simp [(hbefore d (by simp)).2]
  | @capitalized c rest hc hne hrest =>
    have hletters : (before ++ [c] ++ rest).reverse.takeWhile isSmall = rest.reverse :=
      takeWhile_reverse_append isSmall hrest (by simpa using not_isSmall_of_isCapital hc)
    rw [List.append_cons, splitLastWord?, hletters, if_neg (by simpa using hne),
      List.reverse_append, List.drop_left]
    simp [hc]
  | capitals hne hw hbefore =>
    have hcapitals := takeWhile_reverse_append isCapital hw hbefore
    have hsmalls : (before ++ w).reverse.takeWhile isSmall = [] := by
      obtain ⟨front, c, rfl⟩ := (List.eq_nil_or_concat' w).resolve_left hne
      simp [not_isSmall_of_isCapital (hw c (by simp))]
    rw [splitLastWord?, hsmalls, if_pos List.isEmpty_nil, hcapitals, List.reverse_append]
    simp [hne]

theorem splitLastWord?_of_getLast? (h : ∀ c ∈ s.getLast?, ¬isSmall c = true ∧ ¬isCapital c = true) :
    splitLastWord? s = none := by
  rcases List.eq_nil_or_concat' s with rfl | ⟨front, c, rfl⟩
  · rfl
  · obtain ⟨hsmall, hcapital⟩ := h c (by simp)
    simp [splitLastWord?, hsmall, hcapital]

/-- The last characters of a text that have a property, as many as there are. -/
theorem exists_trailing (p : Char → Bool) (s : Text) :
    ∃ front run, s = front ++ run ∧ (∀ c ∈ run, p c = true) ∧
      ∀ c ∈ front.getLast?, ¬p c = true := by
  induction s using List.reverseRecOn with
  | nil => exact ⟨[], [], rfl, by simp, by simp⟩
  | append_singleton s c ih =>
    by_cases hc : p c = true
    · obtain ⟨front, run, rfl, hrun, hfront⟩ := ih
      refine ⟨front, run ++ [c], by simp, fun d hd => ?_, hfront⟩
      rcases List.mem_append.mp hd with hd | hd
      · exact hrun d hd
      · rwa [List.mem_singleton.mp hd]
    · exact ⟨s ++ [c], [], by simp, by simp, by simpa using hc⟩

/-- A text has a last word, unless it ends in no letter. -/
theorem exists_isLastWord_or (s : Text) : (∃ before w, s = before ++ w ∧ IsLastWord before w) ∨
    ∀ c ∈ s.getLast?, ¬isSmall c = true ∧ ¬isCapital c = true := by
  obtain ⟨front, run, rfl, hrun, hfront⟩ := exists_trailing isSmall s
  by_cases hnil : run = []
  · subst hnil
    rw [List.append_nil]
    obtain ⟨before, w, rfl, hw, hbefore⟩ := exists_trailing isCapital front
    by_cases hw' : w = []
    · subst hw'
      rw [List.append_nil] at hfront ⊢
      exact Or.inr fun c hc => ⟨hfront c hc, hbefore c hc⟩
    · exact Or.inl ⟨before, w, rfl, .capitals hw' hw hbefore⟩
  rcases List.eq_nil_or_concat' front with rfl | ⟨before, c, rfl⟩
  · exact Or.inl ⟨[], run, rfl, .smalls hnil hrun (by simp)⟩
  by_cases hc : isCapital c = true
  · exact Or.inl ⟨before, c :: run, by simp, .capitalized hc hnil hrun⟩
  · refine Or.inl ⟨before ++ [c], run, rfl, .smalls hnil hrun fun d hd => ⟨hfront d hd, ?_⟩⟩
    rw [List.getLast?_concat, Option.mem_some] at hd
    exact hd ▸ hc

theorem isLastWord_of_splitLastWord? (h : splitLastWord? s = some (before, w)) :
    s = before ++ w ∧ IsLastWord before w := by
  rcases exists_isLastWord_or s with ⟨x, v, rfl, hlast⟩ | hnone
  · rw [splitLastWord?_of_isLastWord hlast] at h
    obtain ⟨rfl, rfl⟩ := Prod.mk.inj (Option.some.inj h)
    exact ⟨rfl, hlast⟩
  · rw [splitLastWord?_of_getLast? hnone] at h
    exact absurd h (by simp)

theorem getLast?_of_splitLastWord? (h : splitLastWord? s = none) :
    ∀ c ∈ s.getLast?, ¬isSmall c = true ∧ ¬isCapital c = true := by
  refine (exists_isLastWord_or s).resolve_left ?_
  rintro ⟨x, v, rfl, hlast⟩
  rw [splitLastWord?_of_isLastWord hlast] at h
  exact absurd h (by simp)

theorem IsLastWord.isPart (h : IsLastWord before w) : ∀ c ∈ w, Words.isPart c = true := by
  have hsmall : ∀ {v : Text}, (∀ c ∈ v, isSmall c = true) → ∀ c ∈ v, Words.isPart c = true :=
    fun hv c hc => isPart_iff.mpr (Or.inl (hv c hc))
  cases h with
  | smalls _ hw => exact hsmall hw
  | capitalized hc _ hrest =>
    exact List.forall_mem_cons.mpr ⟨isPart_iff.mpr (Or.inr (Or.inl hc)), hsmall hrest⟩
  | capitals _ hw => exact fun c hc => isPart_iff.mpr (Or.inr (Or.inl (hw c hc)))

theorem IsLastWord.ne_nil (h : IsLastWord before w) : w ≠ [] := by
  cases h with
  | smalls hne => exact hne
  | capitalized => exact List.cons_ne_nil _ _
  | capitals hne => exact hne

theorem IsLow.not_capitals (h : IsLow w) (hne : w ≠ []) : ¬∀ c ∈ w, isCapital c = true := by
  intro hall
  obtain ⟨c, hc⟩ : ∃ c ∈ w, isSmall c = true := by
    rcases h with h | ⟨c, rest, rfl, -, hrest, h⟩
    · obtain ⟨c, hc⟩ := List.exists_mem_of_ne_nil w hne
      exact ⟨c, hc, h c hc⟩
    · obtain ⟨d, hd⟩ := List.exists_mem_of_ne_nil rest hrest
      exact ⟨d, List.mem_cons_of_mem c hd, h d hd⟩
  exact not_isCapital_of_isSmall hc.2 (hall c hc.1)

theorem IsLastWord.isLow_or (h : IsLastWord before w) :
    IsLow w ∨ ∀ c ∈ w, isCapital c = true := by
  cases h with
  | smalls _ hw => exact Or.inl (Or.inl hw)
  | capitalized hc hne hrest => exact Or.inl (Or.inr ⟨_, _, rfl, hc, hne, hrest⟩)
  | capitals _ hw => exact Or.inr hw

/-- Small letters in place of the end of a word with small letters. -/
theorem IsLastWord.replace (h : IsLastWord before (b ++ t)) (hlow : IsLow (b ++ t)) (hb : b ≠ [])
    (hne : s ≠ []) (hs : s.all isSmall = true) :
    IsLastWord before (b ++ s) ∧ IsLow (b ++ s) := by
  rw [List.all_eq_true] at hs
  generalize hw : b ++ t = w at h hlow
  cases h with
  | smalls _ hsmall hbefore =>
    subst hw
    have hall : ∀ c ∈ b ++ s, isSmall c = true := fun c hc =>
      (List.mem_append.mp hc).elim (fun hcb => hsmall c (by simp [hcb])) (hs c)
    exact ⟨.smalls (by simp [hb]) hall hbefore, Or.inl hall⟩
  | @capitalized c rest hc _ hrest =>
    obtain ⟨d, more, rfl⟩ := List.exists_cons_of_ne_nil hb
    obtain ⟨rfl, rfl⟩ := List.cons.inj hw
    have hall : ∀ x ∈ more ++ s, isSmall x = true := fun x hx =>
      (List.mem_append.mp hx).elim (fun hxb => hrest x (by simp [hxb])) (hs x)
    have hmore : more ++ s ≠ [] := by simp [hne]
    exact ⟨.capitalized hc hmore hall, Or.inr ⟨d, more ++ s, rfl, hc, hmore, hall⟩⟩
  | capitals hwne hcapital => exact absurd hcapital (hlow.not_capitals hwne)

/-- Small letters at the end of a text end a word with small letters. -/
theorem exists_isLastWord (y : Text) (hne : s ≠ []) (hs : ∀ c ∈ s, isSmall c = true) :
    ∃ x v, y ++ s = x ++ v ∧ IsLastWord x v ∧ IsLow v ∧ s <:+ v := by
  induction y using List.reverseRecOn generalizing s with
  | nil => exact ⟨[], s, rfl, .smalls hne hs (by simp), Or.inl hs, List.suffix_refl s⟩
  | append_singleton y c ih =>
    rw [List.append_assoc]
    by_cases hsmall : isSmall c = true
    · obtain ⟨x, v, heq, hlast, hlow, hsuffix⟩ :=
        ih (List.cons_ne_nil c s) (List.forall_mem_cons.mpr ⟨hsmall, hs⟩)
      exact ⟨x, v, heq, hlast, hlow, (List.suffix_cons c s).trans hsuffix⟩
    by_cases hcapital : isCapital c = true
    · exact ⟨y, c :: s, rfl, .capitalized hcapital hne hs,
        Or.inr ⟨c, s, rfl, hcapital, hne, hs⟩, List.suffix_cons c s⟩
    · refine ⟨y ++ [c], s, by simp, .smalls hne hs fun d hd => ?_, Or.inl hs, List.suffix_refl s⟩
      rw [List.getLast?_concat, Option.mem_some] at hd
      exact hd ▸ ⟨hsmall, hcapital⟩

/-! ### The plural of a text -/

/-- Only the last word is put in the plural. -/
theorem plural_of_isLastWord (h : IsLastWord before w) :
    plural (before ++ w) = before ++ pluralWord w := by
  have hletter : (before ++ w).getLast? ≠ some '\n' := by
    obtain ⟨front, c, rfl⟩ := (List.eq_nil_or_concat' w).resolve_left h.ne_nil
    have hc := h.isPart c (by simp)
    rw [← List.append_assoc, List.getLast?_concat]
    rintro heq
    rw [Option.some.inj heq] at hc
    exact absurd hc (by decide)
  simp only [plural, if_neg hletter, splitLastWord?_of_isLastWord h]

theorem plural_eq_self_iff (h : IsLastWord before w) :
    plural (before ++ w) = before ++ w ↔ pluralWord w = w := by
  rw [plural_of_isLastWord h, List.append_cancel_left_eq]

theorem plural_append_of_settles (hs : settles false s = true) (hne : s ≠ [])
    (hsmall : s.all isSmall = true) (y : Text) : plural (y ++ s) = y ++ s := by
  rw [List.all_eq_true] at hsmall
  obtain ⟨x, v, heq, hlast, hlow, hsuffix⟩ := exists_isLastWord y hne hsmall
  have hend : s <:+ small v := by
    obtain ⟨more, rfl⟩ := hsuffix
    exact ⟨small more, by rw [small_append, small_of_isSmall hsmall]⟩
  rw [heq, plural_eq_self_iff hlast]
  exact pluralWord_of_settles false hs hend (by simp) hlow

theorem plural_append_es (y : Text) : plural (y ++ Text.of "es") = y ++ Text.of "es" :=
  plural_append_of_settles (by decide) (by decide) (by decide) y

/-- The first of the rules that look at the case of the first letter. -/
def kineRule : Rule := ⟨false, [], ["kine"], "kine", true⟩

/-- What that rule adds is a plural already. -/
theorem plural_append_kine (y : Text) : plural (y ++ Text.of "kine") = y ++ Text.of "kine" := by
  have hkine : ∀ c ∈ Text.of "kine", isSmall c = true := List.all_eq_true.mp (by decide)
  obtain ⟨x, v, heq, hlast, hlow, ⟨z, rfl⟩⟩ := exists_isLastWord y (by decide) hkine
  have hend : Text.of "kine" <:+ small (z ++ Text.of "kine") :=
    ⟨small z, (small_append z (Text.of "kine")).symm⟩
  have hforms : ∀ f ∈ formsUpTo (· == kineRule), meets f.letters (Text.of "kine") = true →
      f.keeps = true := by
    decide
  have hnouns : ∀ noun ∈ oesNouns, meets noun.toList (Text.of "kine") = false := by decide
  have hus : meets (Text.of "us") (Text.of "kine") = false := by decide
  have hrule : kineRule ∈ rules := by simp [kineRule, rules, Rule.suppletive]
  have hform :
      (⟨false, true, true, [], Text.of "kine", Text.of "kine"⟩ : Form) ∈ kineRule.forms := by
    simp [kineRule, Rule.forms, Text.of]
  have happlies : (kineRule.result? (z ++ Text.of "kine")).isSome = true :=
    Rule.isSome_result? hform rfl ⟨z, _, rfl, rfl, fun _ => rfl, List.nil_suffix, by simp, rfl⟩
  obtain ⟨f, hf, hgives⟩ := exists_form_upTo hrule (beq_self_eq_true kineRule) fun r _ hr =>
    (beq_iff_eq.mp hr) ▸ happlies
  have hrules := hgives.eq_of_keeps (hforms f hf (meets_of_suffix hgives.letters_suffix hend)) hlow
  rw [heq, plural_eq_self_iff hlast]
  exact pluralWord_eq_self (not_isListed_of_meets hend hnouns) hrules (not_suffix_of_meets hus hend)

theorem plural_append_Kine (y : Text) : plural (y ++ Text.of "Kine") = y ++ Text.of "Kine" := by
  have hlast : IsLastWord y (Text.of "Kine") :=
    .capitalized (by decide) (List.cons_ne_nil _ _) (List.all_eq_true.mp (by decide))
  rw [plural_eq_self_iff hlast]
  decide

end Words

end Scaffold
