import Scaffold.Proofs.Yaml.Token
import Scaffold.Yaml.Token.Layout

/-!
# Tokens that cannot be read

The layout is built by steps that move through the text with the readers of characters and change
nothing but their own records otherwise. They add no way to fail: a key, an indentation or a bracket
in the wrong place is malformed.

## Main results

* `Yaml.tokens_fails` — the faults of the tokens of a text
-/

namespace Scaffold

namespace Yaml

set_option synthInstance.maxSize 10000

/-- The layout has gone on from a place, and every possible key was left behind. -/
def Layout.After (origin : Cursor) (l : Layout) : Prop :=
  origin.Leads l.cursor ∧ ∀ p ∈ l.keys, p.2.line ≤ l.cursor.line

variable {origin : Cursor}

/-- Of a part of the keys the same is true. -/
theorem Layout.After.withKeys {l : Layout} (h : l.After origin) {keys : List (Nat × PossibleKey)}
    (hkeys : keys ⊆ l.keys) : Layout.After origin { l with keys := keys } :=
  ⟨h.1, fun p hp => h.2 p (hkeys hp)⟩

theorem IsOfText.of_suffix {s t : Text} {fault : Fault} (h : IsOfText s fault) (hst : s <:+ t) :
    IsOfText t fault :=
  h.imp_right fun ⟨e, count, digits, hlength, hcount, hhex, hlarge, hin⟩ =>
    ⟨e, count, digits, hlength, hcount, hhex, hlarge, hin.trans hst.isInfix⟩

namespace LayoutStep

/-- A step of the layout that only goes on from a place, and blames what is left there. -/
abbrev Stays {α : Type} (origin : Cursor) (m : LayoutStep α) : Prop :=
  Keeps (Layout.After origin) (IsOfText origin.rest) m

variable {α β : Type}

instance fail_stays : Stays origin (fail : LayoutStep α) := Keeps.throw (.inl rfl)

instance (priority := 2000) fail_bind_stays (f : α → LayoutStep β) : Stays origin (fail >>= f) :=
  fail_stays (α := β)

instance push_stays (t : Token) : Stays origin (push t) := Keeps.modify fun _ h => h

instance pushAt_stays (number : Nat) (t : Token) : Stays origin (pushAt number t) :=
  Keeps.modify fun _ h => h

/-- A reader of characters goes on from its place. -/
instance lex_stays {reader : Lexer α} [hreader : ∀ c, Lexer.Stays c reader] :
    Stays origin (lex reader) := by
  refine Keeps.get_bind fun l hl => ?_
  have hgives := (hreader l.cursor).gives l.cursor (.refl _)
  split
  · rename_i hrun
    have hleads := hgives.ok hrun
    have hnext : Layout.After origin { l with cursor := _ } :=
      ⟨hl.1.trans hleads, fun p hp => Nat.le_trans (hl.2 p hp) hleads.line_le⟩
    exact (Keeps.set hnext).seq fun _ => Keeps.pure _
  · rename_i hrun
    exact Keeps.throw ((hgives.error hrun).of_suffix hl.1.suffix)

instance allowKey_stays (allowed : Bool) : Stays origin (allowKey allowed) :=
  Keeps.modify fun _ h => h

/-- Blocks are closed where they are, and the keys stay what they are. -/
theorem After.close {l : Layout} (h : l.After origin) (indent current : Nat) (outer : List Nat)
    (tokens : List Token) : (Layout.closed.close indent l current outer tokens).After origin := by
  induction outer generalizing current tokens with
  | nil => exact h
  | cons o outer ih =>
    rw [Layout.closed.close]
    split
    · exact ih _ _
    · exact h

instance closeBlocks_stays (indent : Nat) : Stays origin (closeBlocks indent) :=
  Keeps.modify fun l h => by
    unfold Layout.closed
    split
    · exact After.close h _ _ _ _
    · exact h

instance openBlock_stays (column : Nat) (t : Token) (number : Nat) :
    Stays origin (openBlock column t number) := by
  refine Keeps.get_bind fun l hl => ?_
  split
  · have hopen :
        Layout.After origin { l with indent := column + 1, outer := l.indent :: l.outer } := hl
    exact (Keeps.set hopen).seq fun _ => pushAt_stays number t
  · infer_instance

instance dropKey_stays : Stays origin dropKey := by
  refine Keeps.get_bind fun l hl => ?_
  split
  · infer_instance
  · split
    · infer_instance
    · exact Keeps.set (hl.withKeys List.filter_sublist.subset)

/-- The line of the key that is saved is the one where the layout is. -/
instance saveKey_stays : Stays origin saveKey := by
  refine ⟨fun l hl => ?_⟩
  rw [saveKey, run_get_bind]
  split
  · have hhere : l.After l.cursor := ⟨.refl _, hl.2⟩
    have hdrop := (dropKey_stays.gives l hhere).mono (fun _ h => h)
      fun _ h => h.of_suffix hl.1.suffix
    exact hdrop.bind fun r hr =>
      ⟨hl.1.trans hr.1, List.forall_mem_cons.mpr ⟨hr.1.line_le, hr.2⟩⟩
  · exact hl

instance dropStaleKeys_stays : Stays origin dropStaleKeys := by
  refine Keeps.get_bind fun l hl => ?_
  dsimp only
  split
  · infer_instance
  · exact Keeps.set (hl.withKeys List.filter_sublist.subset)

instance skipGap_stays (fuel : Nat) : Stays origin (skipGap fuel) := by
  induction fuel with
  | zero => exact Keeps.pure _
  | succ fuel ih =>
    unfold skipGap
    infer_instance

instance boundary_stays {reader : Lexer Token} [∀ c, Lexer.Stays c reader] :
    Stays origin (boundary reader) := by
  unfold boundary
  infer_instance

instance openFlow_stays (t : Token) : Stays origin (openFlow t) := by
  have hdeeper : Stays origin (modify fun l : Layout => { l with flow := l.flow + 1 }) :=
    Keeps.modify fun _ h => h
  unfold openFlow
  infer_instance

instance closeFlow_stays (t : Token) : Stays origin (closeFlow t) := by
  have hhigher : Stays origin (modify fun l : Layout => { l with flow := l.flow - 1 }) :=
    Keeps.modify fun _ h => h
  unfold closeFlow
  infer_instance

instance comma_stays : Stays origin comma := by
  unfold comma
  infer_instance

instance blockIndicator_stays (collection t : Token) (keyAfterwards : Bool) :
    Stays origin (blockIndicator collection t keyAfterwards) := by
  unfold blockIndicator
  infer_instance

instance value_stays : Stays origin value := by
  refine Keeps.get_bind fun l hl => ?_
  split
  · have hused : Layout.After origin { l with keys := l.keys.filter (·.1 ≠ l.flow) } :=
      hl.withKeys List.filter_sublist.subset
    exact (Keeps.set hused).seq fun _ => inferInstance
  · infer_instance

instance keyCandidate_stays {reader : Lexer Token} [∀ c, Lexer.Stays c reader] :
    Stays origin (keyCandidate reader) := by
  unfold keyCandidate
  infer_instance

instance block_stays (folded : Bool) : Stays origin (block folded) := by
  unfold block
  infer_instance

instance plain_stays : Stays origin plain := by
  unfold plain
  infer_instance

instance arrive_stays : Stays origin arrive := by
  unfold arrive
  infer_instance

instance token_stays (flow : Bool) (b : Beginning) : Stays origin (token flow b) := by
  cases b <;> (unfold token; infer_instance)

instance emit_stays : Stays origin emit := by
  unfold emit
  infer_instance

instance step_stays : Stays origin step := by
  unfold step
  infer_instance

instance steps_stays (fuel : Nat) : Stays origin (steps fuel) := by
  induction fuel with
  | zero => exact fail_stays
  | succ fuel ih =>
    unfold steps
    infer_instance

end LayoutStep

/-- **The tokens of a text** are missing only where it is malformed, or where an escape is the
number of no character. -/
theorem tokens_fails (text : Text) : FailsAs (IsOfText text) (tokens text) := by
  have hstart : Layout.After (.start text) (.start text) := ⟨.refl _, fun _ hp => nomatch hp⟩
  unfold tokens
  split
  · exact .inl rfl
  · exact ((LayoutStep.steps_stays _).gives _ hstart).bind fun _ _ => trivial

end Yaml

end Scaffold
