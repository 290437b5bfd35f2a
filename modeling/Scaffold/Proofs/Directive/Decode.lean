import Scaffold.Directive.Decode
import Scaffold.Proofs.Pattern.Parser

/-!
# Directives that cannot be decoded

Whatever is wrong with the entries of a directive is a flaw or a refusal, both of which are put into
words, with one exception: a pattern that counts too far. The exception passes through the decoding
of an injection and of the directive around it, so it is one of a pattern that the entries list.

## Main definitions

* `Directive.ListsPattern` — the patterns that the entries of a directive list

## Main results

* `Directive.decode_fails` — the failure of a decoding that is neither a flaw nor a refusal
-/

namespace Scaffold

namespace Directive

variable {entries : List (Value × Value)} {α : Type}

/-- The fields of an injection that hold patterns. -/
def patternFields : List Field := skipIfField :: placementFields.map (·.1)

/-- The entries of an injection have a pattern in one of the fields for them. -/
def HasPattern (entries : List (Value × Value)) (source : Text) : Prop :=
  ∃ f ∈ patternFields, ∃ name, f.find? entries = some (name, .text source)

/-- The patterns of the injections among the items of a list. -/
def HasPatternIn (items : List Value) (source : Text) : Prop :=
  ∃ label injection, .map label injection ∈ items ∧ HasPattern injection source

/-- The patterns of the injections that the entries of a directive list. -/
def ListsPattern (entries : List (Value × Value)) (source : Text) : Prop :=
  ∃ name listed items, injectionsField.find? entries = some (name, listed) ∧
    injectionItems listed = .ok items ∧ HasPatternIn items source

/-- A fault that is not one of a pattern, or is that of one of the patterns. -/
def IsOfPatterns (isPattern : Text → Prop) (e : DecodeError) : Prop :=
  e = .countTooLarge → ∃ source, isPattern source ∧ Pattern.CountsTooFar source

theorem IsOfPatterns.mono {isPattern isPattern' : Text → Prop} {e : DecodeError}
    (he : IsOfPatterns isPattern e) (h : ∀ source, isPattern source → isPattern' source) :
    IsOfPatterns isPattern' e := fun hcount =>
  (he hcount).imp fun source hsource => ⟨h source hsource.1, hsource.2⟩

/-- A value is the pattern that counts too far itself. -/
theorem readPattern_fails (field : Text) (v : Value) :
    FailsAs (IsOfPatterns fun source => v = .text source) (readPattern field v) := by
  unfold readPattern
  split
  · trivial
  · rename_i s
    split
    · trivial
    · exact fun h => nomatch h
    · exact fun _ => ⟨s, rfl, (Pattern.compile_fails s).error ‹_› rfl⟩
    · trivial
    · trivial
  · exact fun h => nomatch h

theorem patternUnder_fails {f : Field} (hf : f ∈ patternFields) :
    FailsAs (IsOfPatterns (HasPattern entries)) (patternUnder entries f) := by
  unfold patternUnder
  split
  · rename_i name v hfind
    refine ((readPattern_fails name v).mono (fun _ h => h) fun e he => ?_).map fun _ _ => trivial
    exact he.mono fun source hv => ⟨f, hf, name, hv ▸ hfind⟩
  · trivial

theorem decodeInjection_fails (entries : List (Value × Value)) :
    FailsAs (IsOfPatterns (HasPattern entries)) (decodeInjection entries) := by
  unfold decodeInjection
  refine (patternUnder_fails List.mem_cons_self).bind fun skipIf _ => ?_
  refine (Gives.mapM (fun _ => True) fun field hfield => ?_).bind fun patterns _ => ?_
  · have hmem : field.1 ∈ patternFields := List.mem_cons_of_mem _ (List.mem_map_of_mem hfield)
    exact (patternUnder_fails hmem).bind fun _ _ => trivial
  · dsimp only
    split
    · split
      · trivial
      · trivial
      · exact fun h => nomatch h
    · exact fun h => nomatch h

theorem decodeInjections_fails (index : Nat) (items : List Value) :
    FailsAs (IsOfPatterns (HasPatternIn items)) (decodeInjections index items) := by
  induction items generalizing index with
  | nil => trivial
  | cons v rest ih =>
    have hrest : FailsAs (IsOfPatterns (HasPatternIn (v :: rest)))
        (decodeInjections (index + 1) rest) := by
      refine (ih _).mono (fun _ h => h) fun e he => he.mono fun source hsource => ?_
      obtain ⟨label, injection, hmem, hsource⟩ := hsource
      exact ⟨label, injection, List.mem_cons_of_mem v hmem, hsource⟩
    unfold decodeInjections
    dsimp only
    split
    · rename_i label injection
      split
      · rw [pure_bind]
        exact hrest.bind fun more _ => by split <;> trivial
      · rw [pure_bind]
        exact hrest.bind fun more _ => by split <;> trivial
      · rename_i hdecode
        exact ((decodeInjection_fails injection).error hdecode).mono fun source hsource =>
          ⟨label, injection, List.mem_cons_self, hsource⟩
    · rw [pure_bind]
      exact hrest.bind fun more _ => by split <;> trivial

/-- The items that are read are those that are listed. -/
theorem listsPattern_of_read {items : List Value} {source : Text}
    (h : injectionsField.read entries (.ok []) injectionItems = .ok items)
    (hsource : HasPatternIn items source) : ListsPattern entries source := by
  unfold Field.read at h
  split at h
  · rename_i name listed hfind
    cases hitems : injectionItems listed with
    | error flaws => simp [hitems, Checked.under] at h
    | ok items' =>
      simp only [hitems, Checked.under, Except.ok.injEq] at h
      exact ⟨name, listed, items', hfind, hitems, h ▸ hsource⟩
  · cases h
    obtain ⟨label, injection, hmem, -⟩ := hsource
    exact nomatch hmem

/-- **The decoding of a directive** ends without a flaw and without a refusal only for the count of
a pattern that the entries list. -/
theorem decode_fails (entries : List (Value × Value)) :
    FailsAs (IsOfPatterns (ListsPattern entries)) (decode entries) := by
  unfold decode
  dsimp only
  split
  · rename_i items hread
    refine Gives.bind (((decodeInjections_fails 0 items).mono (fun _ h => h) fun e he => ?_).map
      fun _ _ => trivial) fun injections (_ : True) => ?_
    · exact he.mono fun source hsource => listsPattern_of_read hread hsource
    · split
      · trivial
      · exact fun h => nomatch h
  · rw [pure_bind]
    split
    · trivial
    · exact fun h => nomatch h

end Directive

end Scaffold
