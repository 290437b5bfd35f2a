import Mathlib.Data.List.Chain
import Mathlib.Data.List.TakeWhile
import Scaffold.Proofs.Text.Split
import Scaffold.Text.Case
import Scaffold.Text.Letter
import Scaffold.Words.Case

/-!
# Names in snake case and their spellings

A name in snake case is words in small letters, with one underscore between two of them. Which words
they are is told from the text by its capitals, so a name that is spelled in another way keeps its
words as long as they can be told apart in that spelling: by a separator always, in camel case when
each word begins with a letter, and a single letter is not taken for the first one of the capitals
behind it.

Only letters and digits of ASCII are parts of words. Everything else separates words, letters of
other scripts as well.

## Main definitions

* `Words.IsTidy` — underscores stand one by one, and only between other characters
* `Words.IsWord`, `Words.wordsOf` — words in small letters, and those of a name in snake case
* `Words.CanFollow` — two words that can be told apart in camel case
* `Words.Spelling` — the spellings of a name

## Main results

* `Words.snakeCase_letters` — which letters and digits are kept, and when that is all of them
* `Words.isTidy_snakeCase`, `Words.isWord_of_mem_wordsOf` — names in snake case are made of words
* `Words.snakeCase_map`, `Words.snakeCase_camel` — they are read back from other spellings
* `Words.spellings_agree` — it does not matter which spelling a name has
-/

namespace Scaffold

variable {c : Char}

namespace Words

/-! ### Kinds of characters -/

theorem isSmall_iff : isSmall c = true ↔ 97 ≤ c.toNat ∧ c.toNat ≤ 122 := by
  simp [isSmall, Char.le_def, UInt32.le_iff_toNat_le]

theorem isCapital_iff : isCapital c = true ↔ 65 ≤ c.toNat ∧ c.toNat ≤ 90 := by
  simp [isCapital, Char.le_def, UInt32.le_iff_toNat_le]

theorem isDigit_iff : c.isDigit = true ↔ 48 ≤ c.toNat ∧ c.toNat ≤ 57 := by
  simp [Char.isDigit, UInt32.le_iff_toNat_le]

theorem isPart_iff :
    isPart c = true ↔ isSmall c = true ∨ isCapital c = true ∨ c.isDigit = true := by
  simp [isPart, or_assoc]

theorem toNat_toLower (c : Char) :
    c.toLower.toNat = if isCapital c then c.toNat + 32 else c.toNat := by
  have hcapital : isCapital c = true ↔ c.val ≥ 'A'.val ∧ c.val ≤ 'Z'.val := by
    simp [isCapital, Char.le_def]
  delta Char.toLower
  split
  · rename_i h
    have hle := (isCapital_iff.mp (hcapital.mpr h)).2
    rw [if_pos (hcapital.mpr h)]
    change (c.val + 32).toNat = c.toNat + 32
    exact Nat.mod_eq_of_lt (show c.toNat + 32 < 2 ^ 32 by omega)
  · rename_i h
    rw [if_neg (hcapital.not.mpr h)]

theorem toNat_toUpper (c : Char) :
    c.toUpper.toNat = if isSmall c then c.toNat - 32 else c.toNat := by
  have hsmall : isSmall c = true ↔ 'a'.val ≤ c.val ∧ c.val ≤ 'z'.val := by
    simp [isSmall, Char.le_def]
  delta Char.toUpper
  split
  · rename_i h
    have hle := isSmall_iff.mp (hsmall.mpr h)
    rw [if_pos (hsmall.mpr h)]
    change (c.val + 4294967264).toNat = c.toNat - 32
    rw [UInt32.toNat_add]
    change (c.toNat + 4294967264) % 4294967296 = c.toNat - 32
    omega
  · rename_i h
    rw [if_neg (hsmall.not.mpr h)]

theorem toLower_of_not_isCapital (h : ¬isCapital c = true) : c.toLower = c := by
  rw [← Char.toNat_inj, toNat_toLower, if_neg h]

theorem not_isCapital_of_isSmall (h : isSmall c = true) : ¬isCapital c = true := by
  rw [isSmall_iff] at h
  rw [isCapital_iff]
  omega

theorem not_isCapital_of_isDigit (h : c.isDigit = true) : ¬isCapital c = true := by
  rw [isDigit_iff] at h
  rw [isCapital_iff]
  omega

theorem not_isSmall_of_isDigit (h : c.isDigit = true) : ¬isSmall c = true := by
  rw [isDigit_iff] at h
  rw [isSmall_iff]
  omega

theorem not_isSmall_of_isCapital (h : isCapital c = true) : ¬isSmall c = true :=
  fun hsmall => not_isCapital_of_isSmall hsmall h

theorem isSmall_toLower (h : isCapital c = true) : isSmall c.toLower = true := by
  rw [isSmall_iff, toNat_toLower, if_pos h]
  rw [isCapital_iff] at h
  omega

theorem isCapital_toUpper (h : isSmall c = true) : isCapital c.toUpper = true := by
  rw [isCapital_iff, toNat_toUpper, if_pos h]
  rw [isSmall_iff] at h
  omega

theorem toUpper_of_not_isSmall (h : ¬isSmall c = true) : c.toUpper = c := by
  rw [← Char.toNat_inj, toNat_toUpper, if_neg h]

theorem toLower_toUpper (h : isSmall c = true) : c.toUpper.toLower = c := by
  rw [← Char.toNat_inj, toNat_toLower, if_pos (isCapital_toUpper h), toNat_toUpper, if_pos h]
  rw [isSmall_iff] at h
  omega

theorem toLower_eq_underscore_iff : c.toLower = '_' ↔ c = '_' := by
  rw [← Char.toNat_inj, ← Char.toNat_inj, toNat_toLower]
  split
  · rename_i h
    rw [isCapital_iff] at h
    change c.toNat + 32 = 95 ↔ c.toNat = 95
    omega
  · exact Iff.rfl

theorem ne_underscore_of_isPart (h : isPart c = true) : c ≠ '_' := by
  rintro rfl
  exact absurd h (by decide)

/-- The characters of words are the ASCII ones among all letters and numerals. -/
theorem isPart_eq (c : Char) :
    isPart c = (decide (c.toNat < 128) && Text.isLetterOrNumeral c) := by
  have hclass : c.isAlphanum = isPart c := by
    have hupper : c.isUpper = isCapital c := Bool.decide_and _ _
    change (c.isUpper || isSmall c || c.isDigit) = isPart c
    rw [hupper, isPart, Bool.or_comm (isCapital c)]
  by_cases hc : c.toNat < 128
  · rw [Text.isLetterOrNumeral, if_pos hc, hclass, decide_eq_true hc, Bool.true_and]
  · rw [decide_eq_false hc, Bool.false_and, ← Bool.not_eq_true, isPart_iff, isSmall_iff,
      isCapital_iff, isDigit_iff]
    omega

end Words

namespace Text

variable {s : Text}

theorem lowerFrom_of_ascii (h : ∀ c ∈ s, c.toNat < 128) (before : Text) :
    lowerFrom before s = s.map Char.toLower := by
  induction s generalizing before with
  | nil => rfl
  | cons c rest ih =>
    rw [List.forall_mem_cons] at h
    have hsigma : ¬(c.toNat == 0x3A3) = true := by
      rw [beq_iff_eq]
      omega
    rw [lowerFrom, if_neg hsigma, lowerChars, if_pos h.1, ih h.2]
    rfl

/-- Lower case of ASCII goes character by character. -/
theorem lower_of_ascii (h : ∀ c ∈ s, c.toNat < 128) : lower s = s.map Char.toLower :=
  lowerFrom_of_ascii h []

theorem length_le_length_lowerFrom (before s : Text) : s.length ≤ (lowerFrom before s).length := by
  induction s generalizing before with
  | nil => exact Nat.le_refl _
  | cons c rest ih =>
    have hrest := ih (c :: before)
    have hlower : 1 ≤ (lowerChars c).length := by
      rw [lowerChars]
      split
      · exact Nat.le_refl _
      · split <;> simp
    rw [lowerFrom, List.length_append, List.length_cons]
    split
    · split <;> simp <;> omega
    · omega

/-- Lower case makes no text shorter. -/
theorem length_le_length_lower (s : Text) : s.length ≤ (lower s).length :=
  length_le_length_lowerFrom [] s

end Text

namespace Words

variable {s t w : Text} {c p : Char}

/-! ### Letters and digits -/

theorem filter_foldSeparators (inRun : Bool) (s : Text) :
    (foldSeparators inRun s).filter (· ≠ '_') = s.filter isPart := by
  induction s generalizing inRun with
  | nil => rfl
  | cons c rest ih =>
    rw [foldSeparators]
    split
    · rename_i hpart
      rw [List.filter_cons_of_pos (by simpa using ne_underscore_of_isPart hpart), ih,
        List.filter_cons_of_pos hpart]
    · rename_i hpart
      split
      · rw [ih, List.filter_cons_of_neg hpart]
      · rw [List.filter_cons_of_neg (by simp), ih, List.filter_cons_of_neg hpart]

theorem filter_dropWhile_underscore (s : Text) :
    (s.dropWhile (· == '_')).filter (· ≠ '_') = s.filter (· ≠ '_') := by
  induction s with
  | nil => rfl
  | cons c rest ih =>
    by_cases hc : c = '_' <;> simp_all

theorem filter_trimUnderscores (s : Text) :
    (trimUnderscores s).filter (· ≠ '_') = s.filter (· ≠ '_') := by
  rw [trimUnderscores, List.filter_reverse, filter_dropWhile_underscore, List.filter_reverse,
    List.reverse_reverse, filter_dropWhile_underscore]

theorem filter_separateWords (previous : Char) (s : Text) :
    (separateWords previous s).filter (· ≠ '_') = s.filter (· ≠ '_') := by
  induction s generalizing previous with
  | nil => rfl
  | cons c rest ih =>
    rw [separateWords]
    split
    · rw [List.filter_cons_of_neg (by simp), List.filter_cons, ih, List.filter_cons]
    · rw [List.filter_cons, ih, List.filter_cons]

theorem filter_map_toLower (s : Text) :
    (s.map Char.toLower).filter (· ≠ '_') = (s.filter (· ≠ '_')).map Char.toLower := by
  rw [List.filter_map]
  congr 2
  funext c
  simp [toLower_eq_underscore_iff]

/-- **No letter or digit of ASCII is lost**: they are what stands between the underscores, in order
and in small letters. -/
theorem filter_snakeCase (s : Text) :
    (snakeCase s).filter (· ≠ '_') = (s.filter isPart).map Char.toLower := by
  rw [snakeCase, filter_map_toLower, filter_separateWords, filter_trimUnderscores,
    filter_foldSeparators]

theorem filter_isPart (s : Text) :
    s.filter isPart =
      (s.filter Text.isLetterOrNumeral).filter fun c => decide (c.toNat < 128) := by
  rw [List.filter_filter]
  congr 1
  funext c
  rw [isPart_eq]

/-- **The letters and digits that are left of a name** are those of ASCII. So they are all of them
exactly when the name has no letter or numeral of another script. -/
theorem snakeCase_letters (s : Text) :
    (snakeCase s).filter (· ≠ '_') = (s.filter isPart).map Char.toLower ∧
    ((snakeCase s).filter (· ≠ '_') = Text.lower (s.filter Text.isLetterOrNumeral) ↔
      ∀ c ∈ s, Text.isLetterOrNumeral c = true → c.toNat < 128) := by
  refine ⟨filter_snakeCase s, ?_⟩
  rw [filter_snakeCase, filter_isPart]
  constructor
  · intro h
    -- lower case makes nothing shorter, so nothing can have been left out
    have hlength := congrArg List.length h
    rw [List.length_map] at hlength
    have hle := Text.length_le_length_lower (s.filter Text.isLetterOrNumeral)
    have hge := List.length_filter_le (fun c : Char => decide (c.toNat < 128))
      (s.filter Text.isLetterOrNumeral)
    have hall := List.length_filter_eq_length_iff.mp (Nat.le_antisymm hge (hlength ▸ hle))
    exact fun c hc hletter => of_decide_eq_true (hall c (List.mem_filter.mpr ⟨hc, hletter⟩))
  · intro h
    have hascii : ∀ c ∈ s.filter Text.isLetterOrNumeral, c.toNat < 128 := fun c hc =>
      h c (List.mem_of_mem_filter hc) (List.of_mem_filter hc)
    rw [Text.lower_of_ascii hascii, List.filter_eq_self.mpr fun c hc => by simp [hascii c hc]]

/-- A letter that is not kept. -/
theorem snakeCase_letters_fails :
    (snakeCase (Text.of "café")).filter (· ≠ '_') ≠
      Text.lower ((Text.of "café").filter Text.isLetterOrNumeral) := by
  decide

/-! ### Underscores -/

/-- No two underscores side by side. -/
def IsSparse (s : Text) : Prop := s.IsChain fun a b => ¬(a = '_' ∧ b = '_')

/-- Underscores stand one by one, and only between other characters. -/
structure IsTidy (s : Text) : Prop where
  isSparse : IsSparse s
  head?_ne : s.head? ≠ some '_'
  getLast?_ne : s.getLast? ≠ some '_'

theorem isSparse_foldSeparators (inRun : Bool) (s : Text) :
    IsSparse (foldSeparators inRun s) ∧
      (inRun = true → (foldSeparators inRun s).head? ≠ some '_') := by
  induction s generalizing inRun with
  | nil => exact ⟨.nil, by simp [foldSeparators]⟩
  | cons c rest ih =>
    rw [foldSeparators]
    split
    · rename_i hpart
      have hc := ne_underscore_of_isPart hpart
      exact ⟨(ih false).1.cons fun d _ h => hc h.1, fun _ => by simpa using hc⟩
    · split
      · exact ⟨(ih true).1, fun _ => (ih true).2 rfl⟩
      · rename_i hrun
        exact ⟨(ih true).1.cons fun d hd h => (ih true).2 rfl (h.2 ▸ hd), fun h => absurd h hrun⟩

theorem head?_dropWhile_underscore (s : Text) : (s.dropWhile (· == '_')).head? ≠ some '_' := by
  intro h
  have hnot := List.head?_dropWhile_not (· == '_') s
  rw [h] at hnot
  exact absurd hnot (by decide)

theorem trimUnderscores_isPrefix (s : Text) : trimUnderscores s <+: s.dropWhile (· == '_') := by
  rw [trimUnderscores, ← List.reverse_suffix, List.reverse_reverse]
  exact List.dropWhile_suffix _

theorem isTidy_trimUnderscores (h : IsSparse s) : IsTidy (trimUnderscores s) where
  isSparse := List.IsChain.infix h
    ((trimUnderscores_isPrefix s).isInfix.trans (List.dropWhile_suffix _).isInfix)
  head?_ne := fun hhead => by
    obtain ⟨more, hmore⟩ := trimUnderscores_isPrefix s
    have hdrop := head?_dropWhile_underscore s
    rw [← hmore, List.head?_append, hhead] at hdrop
    exact hdrop rfl
  getLast?_ne := by
    rw [trimUnderscores, List.getLast?_reverse]
    exact head?_dropWhile_underscore _

theorem beginsWord_underscore (c : Char) (next : Option Char) : beginsWord '_' c next = false := by
  have hclass : isSmall '_' = false ∧ '_'.isDigit = false ∧ isCapital '_' = false := by decide
  simp [beginsWord, hclass]

theorem isSparse_separateWords (h : IsSparse (p :: s)) : IsSparse (p :: separateWords p s) := by
  induction s generalizing p with
  | nil => exact h
  | cons c rest ih =>
    obtain ⟨hpc, hrest⟩ := List.isChain_cons_cons.mp h
    rw [separateWords]
    split
    · rename_i hbegins
      have hp : p ≠ '_' := by
        rintro rfl
        rw [beginsWord_underscore] at hbegins
        exact Bool.false_ne_true hbegins
      have hc : c ≠ '_' := by
        rintro rfl
        exact absurd (Bool.and_eq_true_iff.mp hbegins).1 (by decide)
      exact ((ih hrest).cons_cons fun h => hc h.2).cons_cons fun h => hp h.1
    · exact (ih hrest).cons_cons hpc

theorem getLast?_separateWords (p : Char) (s : Text) :
    (separateWords p s).getLast? = s.getLast? := by
  induction s generalizing p with
  | nil => rfl
  | cons c rest ih =>
    have hrest : (c :: separateWords c rest).getLast? = (c :: rest).getLast? := by
      rw [List.getLast?_cons, List.getLast?_cons, ih]
    rw [separateWords]
    split
    · rw [List.getLast?_cons_cons, hrest]
    · exact hrest

theorem head?_separateWords (s : Text) : (separateWords '_' s).head? = s.head? := by
  cases s with
  | nil => rfl
  | cons c rest => rw [separateWords, beginsWord_underscore]; rfl

theorem IsTidy.separateWords (h : IsTidy s) : IsTidy (separateWords '_' s) where
  isSparse := by
    have hcons : IsSparse ('_' :: s) := h.isSparse.cons fun d hd hboth => h.head?_ne (hboth.2 ▸ hd)
    exact (isSparse_separateWords hcons).tail
  head?_ne := head?_separateWords s ▸ h.head?_ne
  getLast?_ne := getLast?_separateWords '_' s ▸ h.getLast?_ne

theorem IsTidy.map_toLower (h : IsTidy s) : IsTidy (s.map Char.toLower) where
  isSparse := by
    rw [IsSparse, List.isChain_map]
    simp only [toLower_eq_underscore_iff]
    exact h.isSparse
  head?_ne := by
    simpa [toLower_eq_underscore_iff] using h.head?_ne
  getLast?_ne := by
    simpa [toLower_eq_underscore_iff] using h.getLast?_ne

theorem isTidy_snakeCase (s : Text) : IsTidy (snakeCase s) :=
  (isTidy_trimUnderscores (isSparse_foldSeparators false s).1).separateWords.map_toLower

/-! ### Words -/

/-- A word in small letters: small letters and digits of ASCII, at least one. -/
def IsWord (w : Text) : Prop := w ≠ [] ∧ ∀ c ∈ w, isSmall c = true ∨ c.isDigit = true

/-- The words of a name in snake case. -/
def wordsOf (s : Text) : List Text := if s = [] then [] else Text.splitOnChar '_' s

/-- Between underscores that stand one by one there is something. -/
theorem ne_nil_of_mem_splitOnChar (h : IsSparse s) (hlast : s.getLast? ≠ some '_') :
    (∀ w ∈ (Text.splitOnChar '_' s).tail, w ≠ []) ∧
      (s ≠ [] → s.head? ≠ some '_' → ∀ w ∈ Text.splitOnChar '_' s, w ≠ []) := by
  induction s with
  | nil => simp [Text.splitOnChar]
  | cons c rest ih =>
    by_cases hrest : rest = []
    · subst hrest
      have hc : c ≠ '_' := by simpa using hlast
      simp [Text.splitOnChar, hc]
    have hlast' : rest.getLast? ≠ some '_' := by
      obtain ⟨d, more, rfl⟩ := List.exists_cons_of_ne_nil hrest
      rwa [List.getLast?_cons_cons] at hlast
    obtain ⟨htail, hall⟩ := ih h.tail hlast'
    by_cases hc : c = '_'
    · have hhead : rest.head? ≠ some '_' := by
        obtain ⟨d, more, rfl⟩ := List.exists_cons_of_ne_nil hrest
        exact fun hd => (List.isChain_cons_cons.mp h).1 ⟨hc, Option.some.inj hd⟩
      rw [Text.splitOnChar, if_pos hc]
      exact ⟨hall hrest hhead, fun _ hne => absurd (by rw [hc]; rfl) hne⟩
    · obtain ⟨first, more, hsplit⟩ :=
        List.exists_cons_of_ne_nil (Text.splitOnChar_ne_nil '_' rest)
      rw [hsplit] at htail
      simp only [Text.splitOnChar, hc, hsplit]
      exact ⟨htail, fun _ _ => by simpa using htail⟩

theorem mem_snakeCase (h : c ∈ snakeCase s) : c = '_' ∨ isSmall c = true ∨ c.isDigit = true := by
  by_cases hc : c = '_'
  · exact Or.inl hc
  · have hmem : c ∈ (snakeCase s).filter (· ≠ '_') := List.mem_filter.mpr ⟨h, by simpa using hc⟩
    rw [filter_snakeCase] at hmem
    obtain ⟨d, hd, rfl⟩ := List.mem_map.mp hmem
    rcases isPart_iff.mp (List.of_mem_filter hd) with hsmall | hcapital | hdigit
    · exact Or.inr (Or.inl (by rwa [toLower_of_not_isCapital (not_isCapital_of_isSmall hsmall)]))
    · exact Or.inr (Or.inl (isSmall_toLower hcapital))
    · exact Or.inr (Or.inr (by rwa [toLower_of_not_isCapital (not_isCapital_of_isDigit hdigit)]))

/-- **A name in snake case is made of its words**, with one underscore between two of them. -/
theorem isWord_of_mem_wordsOf (h : w ∈ wordsOf (snakeCase s)) : IsWord w := by
  rw [wordsOf] at h
  split at h
  · exact absurd h List.not_mem_nil
  · rename_i hne
    have htidy := isTidy_snakeCase s
    refine ⟨(ne_nil_of_mem_splitOnChar htidy.isSparse htidy.getLast?_ne).2 hne htidy.head?_ne w h,
      fun c hc => ?_⟩
    have hmem : c ∈ snakeCase s :=
      Text.join_splitOnChar '_' (snakeCase s) ▸ (Text.infix_join h).mem hc
    refine (mem_snakeCase hmem).resolve_left ?_
    rintro rfl
    exact Text.not_mem_of_mem_splitOnChar h hc

theorem join_wordsOf (s : Text) : Text.join ['_'] (wordsOf s) = s := by
  rw [wordsOf]
  split
  · rename_i hnil
    rw [hnil]
    rfl
  · exact Text.join_splitOnChar '_' s

/-! ### Reading small letters -/

theorem foldSeparators_map {sep : Char} (hsep : isPart sep = false)
    (hs : ∀ c ∈ s, c = '_' ∨ isPart c = true) (h : IsSparse s) (inRun : Bool)
    (hrun : inRun = true → s.head? ≠ some '_') :
    foldSeparators inRun (s.map fun c => if c = '_' then sep else c) = s := by
  induction s generalizing inRun with
  | nil => rfl
  | cons c rest ih =>
    rw [List.forall_mem_cons] at hs
    rw [List.map_cons, foldSeparators]
    by_cases hc : c = '_'
    · have hhead : rest.head? ≠ some '_' := fun hd => by
        obtain ⟨more, rfl⟩ := List.head?_eq_some_iff.mp hd
        exact (List.isChain_cons_cons.mp h).1 ⟨hc, rfl⟩
      have hfresh : ¬inRun = true := fun hin => hrun hin (by rw [hc]; rfl)
      rw [if_pos hc, if_neg (by simp [hsep]), if_neg hfresh, ih hs.2 h.tail true fun _ => hhead, hc]
    · rw [if_neg hc, if_pos (hs.1.resolve_left hc), ih hs.2 h.tail false (by simp)]

theorem trimUnderscores_of_ne (hhead : s.head? ≠ some '_') (hlast : s.getLast? ≠ some '_') :
    trimUnderscores s = s := by
  have hdrop : ∀ {t : Text}, t.head? ≠ some '_' → t.dropWhile (· == '_') = t := by
    rintro (_ | ⟨c, rest⟩) ht
    · rfl
    · exact List.dropWhile_cons_of_neg (by simpa using ht)
  rw [trimUnderscores, hdrop hhead, hdrop (by rwa [List.head?_reverse]), List.reverse_reverse]

/-- No word begins at a small letter. -/
theorem separateWords_append (hw : ∀ c ∈ w, ¬isCapital c = true) (p : Char) (t : Text) :
    separateWords p (w ++ t) = w ++ separateWords (w.getLast?.getD p) t := by
  induction w generalizing p with
  | nil => rfl
  | cons c rest ih =>
    rw [List.forall_mem_cons] at hw
    rw [List.cons_append, separateWords, if_neg (by simp [beginsWord, hw.1]), ih hw.2,
      List.getLast?_cons, Option.getD_some]
    rfl

theorem map_toLower_of_not_isCapital (hw : ∀ c ∈ w, ¬isCapital c = true) :
    w.map Char.toLower = w :=
  (List.map_congr_left fun c hc => toLower_of_not_isCapital (hw c hc)).trans (List.map_id w)

/-- **A name in snake case is read back**, also with another separator in place of underscores. -/
theorem snakeCase_map (sep : Char) (hsep : isPart sep = false) (s : Text) :
    snakeCase ((snakeCase s).map fun c => if c = '_' then sep else c) = snakeCase s := by
  have htidy := isTidy_snakeCase s
  have hparts : ∀ c ∈ snakeCase s, c = '_' ∨ isPart c = true := fun c hc =>
    (mem_snakeCase hc).imp id fun h => isPart_iff.mpr (h.imp id Or.inr)
  have hsmall : ∀ c ∈ snakeCase s, ¬isCapital c = true := fun c hc => by
    rcases mem_snakeCase hc with rfl | h | h
    · decide
    · exact not_isCapital_of_isSmall h
    · exact not_isCapital_of_isDigit h
  have hwords := separateWords_append hsmall '_' []
  rw [List.append_nil] at hwords
  rw [snakeCase, foldSeparators_map hsep hparts htidy.isSparse false (by simp),
    trimUnderscores_of_ne htidy.head?_ne htidy.getLast?_ne, hwords, separateWords, List.append_nil,
    map_toLower_of_not_isCapital hsmall]

theorem snakeCase_snakeCase (s : Text) : snakeCase (snakeCase s) = snakeCase s := by
  have hsame : ((snakeCase s).map fun c => if c = '_' then '_' else c) = snakeCase s := by
    conv_rhs => rw [← List.map_id (snakeCase s)]
    exact List.map_congr_left fun c _ => by split <;> simp_all
  have hread := snakeCase_map '_' (by decide) s
  rwa [hsame] at hread

/-! ### Reading camel case -/

/-- A word with a capital. -/
def capitalized : Text → Text
  | [] => []
  | c :: rest => c.toUpper :: rest

/-- What may stand behind a word in camel case and still be told from it: a word that begins with a
letter, and has another one behind it if the word in front is a single letter. -/
def CanFollow (w next : Text) : Prop :=
  next.head?.any isSmall = true ∧
    (w.length = 1 → w.all isSmall = true → (next.drop 1).head?.any isSmall = true)

instance (w next : Text) : Decidable (CanFollow w next) := inferInstanceAs (Decidable (_ ∧ _))

theorem join_cons (sep : Char) (w : Text) (ws : List Text) :
    Text.join [sep] (w :: ws) = w ++ ws.flatMap (sep :: ·) := by
  induction ws generalizing w with
  | nil => simp [Text.join]
  | cons v rest ih =>
    simp only [Text.join] at ih ⊢
    rw [List.intercalate_cons_cons, ih, List.flatMap_cons, List.append_assoc]
    rfl

theorem IsWord.not_mem (h : IsWord w) : '_' ∉ w := fun hmem =>
  absurd (h.2 _ hmem) (by decide)

theorem capitalizeParts_append (hw : '_' ∉ w) (t : Text) :
    capitalizeParts false (w ++ t) = w ++ capitalizeParts false t := by
  induction w with
  | nil => rfl
  | cons c rest ih =>
    rw [List.mem_cons, not_or] at hw
    have hc : ¬(decide (c = '_') && !(rest ++ t).isEmpty) = true := by simp [Ne.symm hw.1]
    rw [List.cons_append, capitalizeParts, if_neg Bool.false_ne_true, if_neg hc, ih hw.2]
    rfl

theorem capitalizeParts_word (h : IsWord w) (t : Text) :
    capitalizeParts true (w ++ t) = capitalized w ++ capitalizeParts false t := by
  obtain ⟨c, rest, rfl⟩ := List.exists_cons_of_ne_nil h.1
  have hrest : '_' ∉ rest := fun hmem => h.not_mem (List.mem_cons_of_mem _ hmem)
  rw [List.cons_append, capitalizeParts, if_pos rfl, capitalizeParts_append hrest]
  rfl

theorem capitalizeParts_flatMap {ws : List Text} (h : ∀ w ∈ ws, IsWord w) :
    capitalizeParts false (ws.flatMap ('_' :: ·)) = ws.flatMap capitalized := by
  induction ws with
  | nil => rfl
  | cons w rest ih =>
    rw [List.forall_mem_cons] at h
    have hne : w ++ rest.flatMap ('_' :: ·) ≠ [] := List.append_ne_nil_of_left_ne_nil h.1.1 _
    rw [List.flatMap_cons, List.flatMap_cons, List.cons_append, capitalizeParts,
      if_neg Bool.false_ne_true, if_pos (by simpa using hne), capitalizeParts_word h.1, ih h.2]

/-- The words of a name, each with a capital. -/
theorem pascalCase_eq (s : Text) : pascalCase s = (wordsOf (snakeCase s)).flatMap capitalized := by
  have hwords : ∀ w ∈ wordsOf (snakeCase s), IsWord w := fun _ => isWord_of_mem_wordsOf
  conv_lhs => rw [pascalCase, ← join_wordsOf (snakeCase s)]
  cases hws : wordsOf (snakeCase s) with
  | nil => rfl
  | cons w rest =>
    rw [hws, List.forall_mem_cons] at hwords
    rw [join_cons, capitalizeParts_word hwords.1, capitalizeParts_flatMap hwords.2,
      List.flatMap_cons]

/-- The same with a small letter at the beginning. -/
theorem lowerCamelCase_eq {ws : List Text} (h : wordsOf (snakeCase s) = w :: ws) :
    lowerCamelCase s = w ++ ws.flatMap capitalized := by
  have hwords : ∀ v ∈ wordsOf (snakeCase s), IsWord v := fun _ => isWord_of_mem_wordsOf
  have hpascal := pascalCase_eq s
  have hsnake := join_wordsOf (snakeCase s)
  rw [h, List.forall_mem_cons] at hwords
  obtain ⟨c, rest, rfl⟩ := List.exists_cons_of_ne_nil hwords.1.1
  rw [h, join_cons, List.cons_append] at hsnake
  rw [pascalCase, h, ← hsnake, List.flatMap_cons, capitalized, List.cons_append] at hpascal
  rw [lowerCamelCase, ← hsnake]
  simp only [hpascal, List.drop_one, List.tail_cons, List.cons_append]

theorem foldSeparators_of_isPart (hs : ∀ c ∈ s, isPart c = true) : foldSeparators false s = s := by
  induction s with
  | nil => rfl
  | cons c rest ih =>
    rw [List.forall_mem_cons] at hs
    rw [foldSeparators, if_pos hs.1, ih hs.2]

/-- How the last character of a word looks in camel case: it is a capital only if the word is a
single letter. -/
def EndsAs (w : Text) (c : Char) : Prop :=
  isSmall c = true ∨ c.isDigit = true ∨
    isCapital c = true ∧ w.length = 1 ∧ w.all isSmall = true

theorem IsWord.tail_not_isCapital (h : IsWord (c :: w)) : ∀ d ∈ w, ¬isCapital d = true :=
  fun d hd => (h.2 d (List.mem_cons_of_mem _ hd)).elim not_isCapital_of_isSmall
    not_isCapital_of_isDigit

theorem IsWord.endsAs {first : Char} (h : IsWord (c :: w))
    (hfirst : first = c ∨ first = c.toUpper) : EndsAs (c :: w) (w.getLast?.getD first) := by
  rcases List.eq_nil_or_concat' w with rfl | ⟨front, d, rfl⟩
  · have hc := h.2 c List.mem_cons_self
    rcases hfirst with rfl | rfl
    · exact hc.imp id Or.inl
    · rcases hc with hsmall | hdigit
      · exact Or.inr (Or.inr ⟨isCapital_toUpper hsmall, rfl, by simp [hsmall]⟩)
      · rw [toUpper_of_not_isSmall (not_isSmall_of_isDigit hdigit)]
        exact Or.inr (Or.inl hdigit)
  · rw [List.getLast?_append, List.getLast?_singleton, Option.some_or, Option.getD_some]
    exact (h.2 d (by simp)).imp id Or.inl

/-- **The words in camel case are told apart**: each begins at its capital. -/
theorem separateWords_flatMap {ws : List Text} (hws : ∀ v ∈ ws, IsWord v)
    (h : (w :: ws).IsChain CanFollow) (hp : EndsAs w p) :
    separateWords p (ws.flatMap capitalized) = ws.flatMap ('_' :: capitalized ·) := by
  induction ws generalizing w p with
  | nil => rfl
  | cons v rest ih =>
    rw [List.forall_mem_cons] at hws
    obtain ⟨hfollow, hrest⟩ := List.isChain_cons_cons.mp h
    obtain ⟨c, more, rfl⟩ := List.exists_cons_of_ne_nil hws.1.1
    have hsmall : isSmall c = true := hfollow.1
    have hbegins : beginsWord p c.toUpper (more ++ rest.flatMap capitalized).head? = true := by
      rw [beginsWord, isCapital_toUpper hsmall, Bool.true_and, Bool.or_eq_true, Bool.or_eq_true,
        Bool.and_eq_true, or_assoc]
      refine hp.imp id (Or.imp id fun ⟨hcapital, hlength, hall⟩ => ⟨hcapital, ?_⟩)
      have hnext := hfollow.2 hlength hall
      cases more with
      | nil => exact absurd hnext Bool.false_ne_true
      | cons d tail => exact hnext
    rw [List.flatMap_cons, List.flatMap_cons, capitalized, List.cons_append, separateWords,
      if_pos hbegins, separateWords_append hws.1.tail_not_isCapital,
      ih hws.2 hrest (hws.1.endsAs (Or.inr rfl))]
    rfl

theorem isPart_toUpper (h : isPart c = true) : isPart c.toUpper = true := by
  by_cases hsmall : isSmall c = true
  · exact isPart_iff.mpr (Or.inr (Or.inl (isCapital_toUpper hsmall)))
  · rwa [toUpper_of_not_isSmall hsmall]

theorem IsWord.isPart (h : IsWord w) : ∀ c ∈ w, isPart c = true := fun c hc =>
  isPart_iff.mpr ((h.2 c hc).imp id Or.inr)

theorem IsWord.isPart_capitalized (h : IsWord w) : ∀ c ∈ capitalized w, Words.isPart c = true := by
  obtain ⟨c, rest, rfl⟩ := List.exists_cons_of_ne_nil h.1
  have hparts := h.isPart
  rw [List.forall_mem_cons] at hparts
  exact List.forall_mem_cons.mpr ⟨isPart_toUpper hparts.1, hparts.2⟩

theorem IsWord.not_isCapital (h : IsWord w) : ∀ c ∈ w, ¬isCapital c = true := fun c hc =>
  (h.2 c hc).elim not_isCapital_of_isSmall not_isCapital_of_isDigit

theorem IsWord.map_toLower_capitalized (h : IsWord w) : (capitalized w).map Char.toLower = w := by
  obtain ⟨c, rest, rfl⟩ := List.exists_cons_of_ne_nil h.1
  have hkept := map_toLower_of_not_isCapital h.not_isCapital
  have hc : c.toUpper.toLower = c := by
    by_cases hsmall : isSmall c = true
    · exact toLower_toUpper hsmall
    · rw [toUpper_of_not_isSmall hsmall]
      exact (List.cons.inj hkept).1
  rw [capitalized, List.map_cons, hc, (List.cons.inj hkept).2]

/-- The first word is read as it stands, with a small letter or a capital. -/
theorem separateWords_first {first : Text} (hw : IsWord w)
    (hfirst : first = w ∨ first = capitalized w) :
    ∃ p, EndsAs w p ∧ ∀ t, separateWords '_' (first ++ t) = first ++ separateWords p t := by
  obtain ⟨c, rest, rfl⟩ := List.exists_cons_of_ne_nil hw.1
  obtain ⟨d, hd, rfl⟩ : ∃ d, (d = c ∨ d = c.toUpper) ∧ first = d :: rest := by
    rcases hfirst with rfl | rfl
    · exact ⟨c, Or.inl rfl, rfl⟩
    · exact ⟨c.toUpper, Or.inr rfl, rfl⟩
  refine ⟨_, hw.endsAs hd, fun t => ?_⟩
  rw [List.cons_append, separateWords, if_neg (by simp [beginsWord_underscore]),
    separateWords_append hw.tail_not_isCapital]
  rfl

/-- **A name in camel case is read back**, with a small letter at the beginning or a capital. -/
theorem snakeCase_camel {ws : List Text} {first : Text} (hws : ∀ v ∈ w :: ws, IsWord v)
    (h : (w :: ws).IsChain CanFollow) (hfirst : first = w ∨ first = capitalized w) :
    snakeCase (first ++ ws.flatMap capitalized) = Text.join ['_'] (w :: ws) := by
  rw [List.forall_mem_cons] at hws
  have hlower : first.map Char.toLower = w := by
    rcases hfirst with rfl | rfl
    · exact map_toLower_of_not_isCapital hws.1.not_isCapital
    · exact hws.1.map_toLower_capitalized
  have hparts : ∀ c ∈ first ++ ws.flatMap capitalized, isPart c = true := by
    intro c hc
    rcases List.mem_append.mp hc with hc | hc
    · rcases hfirst with rfl | rfl
      · exact hws.1.isPart c hc
      · exact hws.1.isPart_capitalized c hc
    · obtain ⟨v, hv, hcv⟩ := List.mem_flatMap.mp hc
      exact (hws.2 v hv).isPart_capitalized c hcv
  have hnone : '_' ∉ first ++ ws.flatMap capitalized := fun hmem =>
    ne_underscore_of_isPart (hparts _ hmem) rfl
  have hrest : (ws.flatMap ('_' :: capitalized ·)).map Char.toLower = ws.flatMap ('_' :: ·) := by
    rw [List.map_flatMap]
    exact List.flatMap_congr fun v hv =>
      congrArg ('_' :: ·) (hws.2 v hv).map_toLower_capitalized
  obtain ⟨p, hp, hseparate⟩ := separateWords_first hws.1 hfirst
  rw [snakeCase, foldSeparators_of_isPart hparts,
    trimUnderscores_of_ne (fun hd => hnone (List.mem_of_head? hd))
      (fun hd => hnone (List.mem_of_getLast? hd)),
    hseparate, separateWords_flatMap hws.2 h hp, List.map_append, hlower, hrest, join_cons]

/-! ### Spellings -/

/-- The spellings that the filters of templates give a name. -/
inductive Spelling
  | snake
  | kebab
  | pascal
  | lowerCamel
  /-- Another name for `lowerCamel`. -/
  | camel
deriving DecidableEq, Repr

/-- A name in a spelling. -/
def Spelling.write : Spelling → Text → Text
  | snake => snakeCase
  | kebab => kebabCase
  | pascal => pascalCase
  | lowerCamel | camel => lowerCamelCase

/-- A spelling looks at the words of a name only. -/
theorem Spelling.write_congr (f : Spelling) (h : snakeCase s = snakeCase t) :
    f.write s = f.write t := by
  cases f <;> simp only [write, kebabCase, pascalCase, lowerCamelCase, h]

theorem snakeCase_pascalCase (h : (wordsOf (snakeCase s)).IsChain CanFollow) :
    snakeCase (pascalCase s) = snakeCase s := by
  have hwords : ∀ w ∈ wordsOf (snakeCase s), IsWord w := fun _ => isWord_of_mem_wordsOf
  conv_rhs => rw [← join_wordsOf (snakeCase s)]
  rw [pascalCase_eq]
  cases hws : wordsOf (snakeCase s) with
  | nil => rfl
  | cons w rest =>
    rw [hws] at h hwords
    exact snakeCase_camel hwords h (Or.inr rfl)

theorem snakeCase_lowerCamelCase (h : (wordsOf (snakeCase s)).IsChain CanFollow) :
    snakeCase (lowerCamelCase s) = snakeCase s := by
  have hwords : ∀ w ∈ wordsOf (snakeCase s), IsWord w := fun _ => isWord_of_mem_wordsOf
  have hjoin := join_wordsOf (snakeCase s)
  cases hws : wordsOf (snakeCase s) with
  | nil =>
    rw [hws] at hjoin
    rw [lowerCamelCase, ← hjoin]
    rfl
  | cons w rest =>
    rw [hws] at h hwords hjoin
    rw [lowerCamelCase_eq hws, ← hjoin]
    exact snakeCase_camel hwords h (Or.inl rfl)

/-- **The spellings read each other.** A name in snake case is words in small letters with single
underscores between them, and it is read back from snake case and kebab case. If every word can
follow the one before it in camel case, it is read back from there as well, and then it does not
matter which spelling a name has before it is given another one. -/
theorem spellings_agree (s : Text) :
    (∀ w ∈ wordsOf (snakeCase s), IsWord w) ∧
    snakeCase s = Text.join ['_'] (wordsOf (snakeCase s)) ∧
    snakeCase (snakeCase s) = snakeCase s ∧
    snakeCase (kebabCase s) = snakeCase s ∧
    ((wordsOf (snakeCase s)).IsChain CanFollow →
      snakeCase (pascalCase s) = snakeCase s ∧
      snakeCase (lowerCamelCase s) = snakeCase s ∧
      ∀ f g : Spelling, f.write (g.write s) = f.write s) := by
  have hkebab : snakeCase (kebabCase s) = snakeCase s := snakeCase_map '-' (by decide) s
  refine ⟨fun _ => isWord_of_mem_wordsOf, (join_wordsOf _).symm, snakeCase_snakeCase s, hkebab,
    fun h => ⟨snakeCase_pascalCase h, snakeCase_lowerCamelCase h, fun f g => f.write_congr ?_⟩⟩
  cases g with
  | snake => exact snakeCase_snakeCase s
  | kebab => exact hkebab
  | pascal => exact snakeCase_pascalCase h
  | lowerCamel | camel => exact snakeCase_lowerCamelCase h

theorem spellings_agree_digits :
    let s := Text.of "x2 HTTPServer-v_ab"
    wordsOf (snakeCase s) = ["x2", "http", "server", "v", "ab"].map String.toList ∧
      pascalCase s = Text.of "X2HttpServerVAb" ∧ snakeCase (pascalCase s) = snakeCase s := by
  intro s
  have h : (wordsOf (snakeCase s)).IsChain CanFollow := by decide
  exact ⟨by decide, by decide, ((spellings_agree s).2.2.2.2 h).1⟩

end Words

end Scaffold
