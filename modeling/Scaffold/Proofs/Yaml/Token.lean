import Scaffold.Proofs.Keeps
import Scaffold.Proofs.Yaml.Cursor
import Scaffold.Yaml.Token.Scalar

/-!
# Characters that cannot be read

The readers of characters only go on in the text, and there are two ways for them to fail: the text
is malformed where they stand, or an escape such as `\U00110000` is the number of no character. The
second is not found out by the readers but by the attempt to make a character of the number, so it
has faults of its own.

That an escape which fails so is one of the text is known only together with the backslash in front
of it. Hence the reader of quoted text is followed from the place where it meets the backslash, and
for the others it is enough that they go on.

## Main definitions

* `Yaml.NamesNoCode` — a text with an escape that is the number of no character

## Main results

* `Yaml.Lexer.leads_of_run` — where a reader that has read something ends

## Implementation notes

The size of an instance, as it is bounded, doubles wherever a part of a reader does not depend on
what was read before it. The instances themselves stay small.
-/

namespace Scaffold

namespace Yaml

set_option synthInstance.maxSize 10000

/-! ### Places in a text -/

namespace Cursor

variable {c : Cursor}

/-- The characters of an escape are those that are next. -/
theorem rest_eq_of_peek {a b : Char} (ha : c.peek = a) (hb : c.peekAt 1 = b) (ha' : a ≠ endMark)
    (hb' : b ≠ endMark) : ∃ more, c.rest = a :: b :: more := by
  unfold peek at ha
  unfold peekAt at hb
  rcases hrest : c.rest with _ | ⟨a, _ | ⟨b, more⟩⟩
  all_goals simp_all

end Cursor

/-! ### Characters -/

/-- An escape of the text, such as `\U00110000`, is the number of no character. -/
def NamesNoCode (text : Text) : Prop :=
  ∃ e count digits, Lexer.escapeLength? e = some count ∧ digits.length = count ∧
    digits.all Lexer.isHex ∧ 0x110000 ≤ Lexer.hexValue digits ∧ '\\' :: e :: digits <:+: text

/-- The faults that the characters of a text can have. -/
def IsOfText (text : Text) (fault : Fault) : Prop := fault = .malformed ∨ NamesNoCode text

namespace Lexer

/-- A reader that only goes on from a place, and blames what is left there. -/
abbrev Stays {α : Type} (origin : Cursor) (reader : Lexer α) : Prop :=
  Keeps origin.Leads (IsOfText origin.rest) reader

variable {α β : Type} {origin : Cursor}

/-- **A reader that has read something** has gone on to the end of it. -/
theorem leads_of_run (reader : Lexer α) {c c' : Cursor} [hreader : Stays c reader] {a : α}
    (h : reader.run c = .ok (a, c')) : c.Leads c' :=
  (hreader.gives c (.refl c)).ok h

instance fail_stays : Stays origin (fail : Lexer α) := Keeps.throw (.inl rfl)

/-- What would follow a failure does not matter. -/
instance (priority := 2000) fail_bind_stays (f : α → Lexer β) : Stays origin (fail >>= f) :=
  fail_stays (α := β)

instance peek_stays : Stays origin peek := by
  unfold peek
  infer_instance

instance peekAt_stays (n : Nat) : Stays origin (peekAt n) := by
  unfold peekAt
  infer_instance

instance skip_stays (n : Nat) : Stays origin (skip n) :=
  Keeps.modify fun c h => h.trans (c.leads_advance n)

instance takeWhile_stays (test : Char → Bool) : Stays origin (takeWhile test) :=
  Keeps.get_bind fun c h => (Keeps.set (h.trans (c.leads_advance _))).seq fun _ => Keeps.pure _

instance skipWhile_stays (test : Char → Bool) : Stays origin (skipWhile test) :=
  Keeps.modify fun c h => h.trans (c.leads_advance _)

instance skipRemark_stays : Stays origin skipRemark :=
  Keeps.modify fun c h => h.trans c.leads_skipRemark

instance takeBreak_stays : Stays origin takeBreak :=
  Keeps.get_bind fun c h => (Keeps.set (h.trans c.leads_takeBreak)).seq fun _ => Keeps.pure _

instance skipLineEnd_stays : Stays origin skipLineEnd := by
  unfold skipLineEnd
  infer_instance

/-! ### Directives, anchors and tags -/

instance versionNumber_stays : Stays origin versionNumber := by
  unfold versionNumber
  infer_instance

instance escapedBytes_stays (fuel : Nat) : Stays origin (escapedBytes fuel) := by
  induction fuel with
  | zero => exact Keeps.pure _
  | succ fuel ih =>
    unfold escapedBytes
    infer_instance

instance tagChars_stays (fuel : Nat) : Stays origin (tagChars fuel) := by
  induction fuel with
  | zero => exact Keeps.pure _
  | succ fuel ih =>
    rw [tagChars]
    refine peek_stays.seq fun c => ?_
    split
    · refine Keeps.get.seq fun _ => (escapedBytes_stays _).seq fun bytes => ?_
      split <;> infer_instance
    · infer_instance

instance tagSuffix_stays : Stays origin tagSuffix := by
  unfold tagSuffix
  infer_instance

instance tagHandle_stays : Stays origin tagHandle := by
  unfold tagHandle
  infer_instance

instance versionSetting_stays : Stays origin versionSetting := by
  unfold versionSetting
  infer_instance

instance tagStart_stays : Stays origin tagStart := by
  unfold tagStart
  infer_instance

instance tagSetting_stays : Stays origin tagSetting := by
  unfold tagSetting
  infer_instance

instance otherSetting_stays : Stays origin otherSetting := by
  unfold otherSetting
  infer_instance

instance setting_stays : Stays origin setting := by
  unfold setting
  infer_instance

instance anchorName_stays : Stays origin anchorName := by
  unfold anchorName
  infer_instance

instance tag_stays : Stays origin tag := by
  unfold tag
  infer_instance

/-! ### Quoted scalars -/

theorem run_peek_bind (f : Char → Lexer α) (s : Cursor) :
    (peek >>= f).run s = (f s.peek).run s := rfl

theorem run_peekAt_bind (n : Nat) (f : Char → Lexer α) (s : Cursor) :
    (peekAt n >>= f).run s = (f (s.peekAt n)).run s := rfl

theorem run_takeWhile_bind (test : Char → Bool) (f : Text → Lexer α) (s : Cursor) :
    (takeWhile test >>= f).run s = (f (s.takeWhile test).1).run (s.takeWhile test).2 := rfl

/-- A numeric escape fails if its digits are missing, or are those of no character. -/
theorem numericEscape_gives {s : Cursor} {e : Char} {count : Nat} {more : Text}
    (he : escapeLength? e = some count) (hrest : s.rest = e :: more)
    (hs : origin.Leads s) (hback : '\\' :: s.rest <:+ origin.rest) :
    Gives (fun r => origin.Leads r.2) (IsOfText origin.rest) ((numericEscape count).run s) := by
  have hdigits : '\\' :: e :: more.take count <:+: origin.rest :=
    (show _ <+: '\\' :: s.rest from ⟨more.drop count, by simp [hrest]⟩).isInfix.trans hback.isInfix
  unfold numericEscape
  rw [run_get_bind]
  dsimp only
  split
  · exact Keeps.gives s hs
  · rename_i hshape
    have hcode : 0x110000 ≤ hexValue (more.take count) → NamesNoCode origin.rest := fun hlarge => by
      rw [hrest, List.drop_succ_cons, List.drop_zero] at hshape
      exact ⟨e, count, _, he, by simp_all, by simp_all, hlarge, hdigits⟩
    rw [hrest, List.drop_succ_cons, List.drop_zero]
    refine ((skip_stays (count + 1)).seq fun _ => ?_).gives s hs
    split
    · exact Keeps.throw (.inr (hcode (by omega)))
    · split
      · exact Keeps.throw (.inr (hcode ‹_›))
      · exact Keeps.pure _

/-- The same for the character that the escape is. The second half of a pair is optional, and so it
never fails. -/
theorem escapedChar_gives {s : Cursor} {e : Char} {count : Nat} {more : Text}
    (he : escapeLength? e = some count) (hrest : s.rest = e :: more)
    (hs : origin.Leads s) (hback : '\\' :: s.rest <:+ origin.rest) :
    Gives (fun r => origin.Leads r.2) (IsOfText origin.rest) ((escapedChar count).run s) := by
  unfold escapedChar
  refine (numericEscape_gives he hrest hs hback).bind fun r hr => ?_
  exact Keeps.gives r.2 hr

instance quotedBreaks_stays (fuel : Nat) : Stays origin (quotedBreaks fuel) := by
  induction fuel with
  | zero => exact Keeps.pure _
  | succ fuel ih =>
    unfold quotedBreaks
    infer_instance

instance quotedBlanks_stays (fuel : Nat) : Stays origin (quotedBlanks fuel) := by
  unfold quotedBlanks
  infer_instance

/-- The backslash in front of a numeric escape is in the text. -/
theorem escape_gives {s : Cursor} {fuel : Nat} (hs : origin.Leads s) (hpeek : s.peek = '\\') :
    Gives (fun r => origin.Leads r.2) (IsOfText origin.rest) ((escape fuel).run s) := by
  rw [escape, run_peekAt_bind]
  split
  · exact Keeps.gives s hs
  · rename_i count _ he
    obtain ⟨more, hrest⟩ := s.rest_eq_of_peek hpeek rfl (by decide)
      (fun hend => by simp [hend, endMark, escapeLength?] at he)
    have hnext : (s.advance 1).rest = s.peekAt 1 :: more := by
      rw [Cursor.rest_advance, hrest]
      rfl
    have hback : '\\' :: (s.advance 1).rest <:+ origin.rest := by
      rw [hnext, ← hrest]
      exact hs.suffix
    exact escapedChar_gives he hnext (hs.trans (s.leads_advance 1)) hback
  · exact Keeps.gives s hs

instance quotedText_stays (double : Bool) (fuel : Nat) : Stays origin (quotedText double fuel) := by
  induction fuel with
  | zero => exact fail_stays
  | succ fuel ih =>
    rw [quotedText]
    -- from here on with the place, which the backslash of an escape is read off
    refine (takeWhile_stays _).seq fun run => ⟨fun s hs => ?_⟩
    rw [run_peek_bind]
    split
    · exact Keeps.gives s hs
    split
    · exact Keeps.gives s hs
    split
    · exact Keeps.gives s hs
    split
    · exact Keeps.gives s hs
    split
    · rename_i hback
      exact (escape_gives hs (by simp_all)).bind fun r hr => Keeps.gives r.2 hr
    · exact Keeps.gives s hs

instance quotedScalar_stays (double : Bool) : Stays origin (quotedScalar double) := by
  unfold quotedScalar
  infer_instance

/-! ### Block scalars -/

instance takeChomping_stays : Stays origin takeChomping := by
  unfold takeChomping
  refine peek_stays.seq fun c => ?_
  split <;> infer_instance

instance takeIndentation_stays : Stays origin takeIndentation := by
  unfold takeIndentation
  infer_instance

instance blockHeader_stays : Stays origin blockHeader := by
  unfold blockHeader
  infer_instance

instance leadingBreaks_stays (fuel widest : Nat) : Stays origin (leadingBreaks fuel widest) := by
  induction fuel generalizing widest with
  | zero => exact Keeps.pure _
  | succ fuel ih =>
    unfold leadingBreaks
    infer_instance

instance skipIndentation_stays (indent : Nat) : Stays origin (skipIndentation indent) := by
  unfold skipIndentation
  infer_instance

instance blockBreaks_stays (indent fuel : Nat) : Stays origin (blockBreaks indent fuel) := by
  induction fuel with
  | zero => exact Keeps.pure _
  | succ fuel ih =>
    unfold blockBreaks
    infer_instance

instance blockLines_stays (folded : Bool) (indent fuel : Nat) (breaks : Text) :
    Stays origin (blockLines folded indent fuel breaks) := by
  induction fuel generalizing breaks with
  | zero => exact Keeps.pure _
  | succ fuel ih =>
    unfold blockLines
    infer_instance

instance blockStart_stays (least fuel : Nat) (indentation : Option Nat) :
    Stays origin (blockStart least fuel indentation) := by
  cases indentation with
  | none => exact (leadingBreaks_stays fuel 0).seq fun _ => Keeps.pure _
  | some n => exact (blockBreaks_stays _ fuel).seq fun _ => Keeps.pure _

instance blockBody_stays (folded : Bool) (indent : Nat) (indentation : Option Nat) :
    Stays origin (blockBody folded indent indentation) := by
  unfold blockBody
  infer_instance

instance blockScalar_stays (folded : Bool) (indent : Nat) :
    Stays origin (blockScalar folded indent) := by
  unfold blockScalar
  infer_instance

/-! ### Plain scalars -/

instance plainRun_stays (flow : Bool) (fuel : Nat) : Stays origin (plainRun flow fuel) := by
  induction fuel with
  | zero => exact Keeps.pure _
  | succ fuel ih =>
    unfold plainRun
    infer_instance

instance plainBreaks_stays (fuel : Nat) : Stays origin (plainBreaks fuel) := by
  induction fuel with
  | zero => exact Keeps.pure _
  | succ fuel ih =>
    unfold plainBreaks
    infer_instance

instance plainGap_stays (fuel : Nat) : Stays origin (plainGap fuel) := by
  unfold plainGap
  refine (takeWhile_stays _).seq fun spaces => peek_stays.seq fun c => ?_
  split
  · refine takeBreak_stays.seq fun line => Keeps.get.seq fun c => ?_
    split
    · infer_instance
    · refine (plainBreaks_stays fuel).seq fun more => ?_
      split <;> infer_instance
  · infer_instance

instance plainText_stays (flow : Bool) (indent fuel : Nat) (gap : Text) (broken : Bool) :
    Stays origin (plainText flow indent fuel gap broken) := by
  induction fuel generalizing gap broken with
  | zero => exact Keeps.pure _
  | succ fuel ih =>
    unfold plainText
    infer_instance

instance plainScalar_stays (flow : Bool) (indent : Nat) :
    Stays origin (plainScalar flow indent) := by
  unfold plainScalar
  infer_instance

end Lexer

end Yaml

end Scaffold
