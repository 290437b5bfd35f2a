import Scaffold.Pattern.Parser
import Scaffold.Proofs.Keeps
import Mathlib.Data.List.TakeWhile

/-!
# Patterns that count too far

Of the faults of a pattern one is no fault of its form: a quantifier in braces with a number that is
larger than any counter. The readers of a pattern stay inside of its tokens, and that fault comes
only from a number behind an opening brace.

The readers are followed as those of a YAML text are. The one place where the statement needs more
than that what is left is the end of the tokens is the brace, which is taken before the bounds are
read.

## Main definitions

* `Pattern.CountsTooFar` — a text with such a number behind an opening brace

## Main results

* `Pattern.compile_fails` — nothing else is refused for its count
-/

namespace Scaffold

namespace Pattern

set_option synthInstance.maxSize 10000

variable {all : List Token}

/-- A quantifier in braces asks for more turns than can be counted. -/
def CountsTooFar (source : Text) : Prop :=
  ∃ low high : Text, low.all Char.isDigit ∧ high.all Char.isDigit ∧
    (countLimit ≤ numeral 10 low ∧ '\x7b' :: low <:+: source ∨
      countLimit ≤ numeral 10 high ∧ '\x7b' :: low ++ ',' :: high <:+: source)

/-- What is left is the end of the tokens. -/
def Reading.Within (all : List Token) (r : Reading) : Prop := r.tokens <:+ all

/-- A fault that the tokens can have. -/
def IsOf (all : List Token) (fault : Fault) : Prop :=
  fault = .countTooLarge → CountsTooFar (all.flatMap Token.text)

/-- A reader that stays inside of the tokens. -/
abbrev Stays {α : Type} (all : List Token) (reader : Reader α) : Prop :=
  Keeps (Reading.Within all) (IsOf all) reader

theorem Reading.Within.drop {r : Reading} (h : r.Within all) (n : Nat) :
    Reading.Within all { r with tokens := r.tokens.drop n } :=
  (List.drop_suffix n _).trans h

namespace Reader

variable {α β : Type}

instance fail_stays : Stays all (fail : Reader α) := Keeps.throw fun h => nomatch h

instance (priority := 2000) fail_bind_stays (f : α → Reader β) : Stays all (fail >>= f) :=
  fail_stays (α := β)

instance peek_stays : Stays all peek := by
  unfold peek
  infer_instance

instance skip_stays : Stays all skip := Keeps.modify fun _ h => (List.tail_suffix _).trans h

instance accept_stays (c : Char) : Stays all (accept c) := by
  unfold accept
  infer_instance

instance expect_stays (c : Char) : Stays all (expect c) := by
  unfold expect
  infer_instance

instance takeWhile_stays (limit : Nat) (test : Char → Bool) : Stays all (takeWhile limit test) :=
  Keeps.get_bind fun _ h => (Keeps.set (h.drop _)).seq fun _ => Keeps.pure _

instance takeUntil_stays (close : Char) : Stays all (takeUntil close) := by
  refine Keeps.get_bind fun r h => ?_
  dsimp only
  split
  · infer_instance
  · exact (Keeps.set (h.drop _)).seq fun _ => Keeps.pure _

end Reader

open Reader

/-! ### Escapes -/

instance hexEscape_stays (count : Nat) : Stays all (hexEscape count) := by
  unfold hexEscape
  infer_instance

theorem commonEscape?_stays (all : List Token) {c : Char} {reader : Reader Nat}
    (h : commonEscape? c = some reader) :
    Stays all reader := by
  unfold commonEscape? at h
  split at h
  case h_11 =>
    cases h
    refine (expect_stays _).seq fun _ => (takeUntil_stays _).seq fun name => ?_
    split <;> infer_instance
  all_goals cases h
  all_goals infer_instance

instance selfEscape_stays (c : Char) : Stays all (selfEscape c) := by
  unfold selfEscape
  infer_instance

instance setEscape_stays (c : Char) : Stays all (setEscape c) := by
  unfold setEscape
  split
  · infer_instance
  · split
    · infer_instance
    · split
      · infer_instance
      · split
        · have := commonEscape?_stays all ‹_›
          infer_instance
        · infer_instance

instance checkClosed_stays (number : Nat) : Stays all (checkClosed number) := by
  unfold checkClosed
  refine Keeps.get.seq fun r => ?_
  split
  · infer_instance
  · split <;> infer_instance

instance numberEscape_stays (c : Char) : Stays all (numberEscape c) := by
  unfold numberEscape
  infer_instance

instance escape_stays (c : Char) : Stays all (escape c) := by
  unfold escape
  split
  · infer_instance
  · infer_instance
  · split
    · infer_instance
    · split
      · have := commonEscape?_stays all ‹_›
        infer_instance
      · infer_instance

/-! ### Sets -/

instance setMember_stays (t : Token) : Stays all (setMember t) := by
  cases t <;> (unfold setMember; infer_instance)

instance setItems_stays (fuel : Nat) (items : List SetItem) : Stays all (setItems fuel items) := by
  induction fuel generalizing items with
  | zero => exact fail_stays
  | succ fuel ih =>
    rw [setItems]
    refine peek_stays.seq fun t => ?_
    split
    · infer_instance
    rename_i t
    refine skip_stays.seq fun _ => ?_
    split
    · infer_instance
    refine (setMember_stays t).seq fun low => (accept_stays _).seq fun ranged => ?_
    split
    · refine peek_stays.seq fun u => ?_
      split
      · infer_instance
      rename_i u
      refine skip_stays.seq fun _ => ?_
      split
      · infer_instance
      refine (setMember_stays u).seq fun high => ?_
      split <;> infer_instance
    · infer_instance

/-! ### Modes -/

instance modeLetters_stays (fuel : Nat) (modes : Modes) : Stays all (modeLetters fuel modes) := by
  induction fuel generalizing modes with
  | zero => exact fail_stays
  | succ fuel ih =>
    rw [modeLetters]
    refine peek_stays.seq fun t => ?_
    split
    · refine skip_stays.seq fun _ => ?_
      split
      · infer_instance
      dsimp only
      split
      · infer_instance
      refine peek_stays.seq fun t => ?_
      split <;> infer_instance
    · infer_instance

instance modeSwitch_stays (fuel : Nat) : Stays all (modeSwitch fuel) := by
  unfold modeSwitch
  infer_instance

/-! ### Quantifiers -/

/-- Plain tokens, taken back from the text that they are. -/
theorem map_plain_flatMap_text (test : Char → Bool) (ts : List Token)
    (h : ∀ t ∈ ts, (match t with | .plain c => test c | .escaped _ => false) = true) :
    ts = (ts.flatMap Token.text).map .plain ∧ (ts.flatMap Token.text).all test := by
  induction ts with
  | nil => exact ⟨rfl, rfl⟩
  | cons t ts ih =>
    rw [List.forall_mem_cons] at h
    cases t with
    | plain c =>
      obtain ⟨hmap, hall⟩ := ih h.2
      refine ⟨?_, by simp [Token.text, h.1, hall]⟩
      conv => lhs; rw [hmap]
      rfl
    | escaped c => exact absurd h.1 (by simp)

/-- What is taken are plain characters that pass the test. -/
theorem run_takeWhile (limit : Nat) (test : Char → Bool) (r : Reading) :
    ∃ chars rest, chars.all test ∧ r.tokens = chars.map .plain ++ rest ∧
      (takeWhile limit test).run r = .ok (chars, { r with tokens := rest }) := by
  let taken := (r.tokens.take limit).takeWhile fun
    | .plain c => test c
    | .escaped _ => false
  have htaken : taken <+: r.tokens := (List.takeWhile_prefix _).trans (List.take_prefix _ _)
  obtain ⟨hmap, hall⟩ := map_plain_flatMap_text test taken
    (List.all_eq_true.mp List.all_takeWhile)
  refine ⟨taken.flatMap Token.text, r.tokens.drop taken.length, hall, ?_, rfl⟩
  obtain ⟨rest, hrest⟩ := htaken
  rw [← hmap, ← hrest, List.drop_left]

/-- A character is taken if it comes next. -/
theorem run_accept (c : Char) (r : Reading) :
    (∃ rest, r.tokens = .plain c :: rest ∧
      (accept c).run r = .ok (true, { r with tokens := rest })) ∨
      (accept c).run r = .ok (false, r) := by
  by_cases h : r.tokens.head? = some (.plain c)
  · obtain ⟨rest, hrest⟩ := List.head?_eq_some_iff.mp h
    refine .inl ⟨rest, hrest, ?_⟩
    show StateT.run (if _ then _ else _) r = _
    rw [if_pos h]
    show Except.ok (true, { r with tokens := r.tokens.tail }) = _
    rw [hrest, List.tail_cons]
  · refine .inr ?_
    show StateT.run (if _ then _ else _) r = _
    rw [if_neg h]
    rfl

/-- A bound of a quantifier is too large only if its digits are those of a large number. -/
theorem countOf_stays {digits : Text}
    (h : countLimit ≤ numeral 10 digits → CountsTooFar (all.flatMap Token.text)) :
    Stays all (countOf digits) := by
  unfold countOf
  split
  · infer_instance
  · split
    · exact Keeps.throw fun h => nomatch h
    · dsimp only
      split
      · exact Keeps.throw fun _ => h ‹_›
      · infer_instance

@[simp] theorem flatMap_text_map_plain (s : Text) : (s.map Token.plain).flatMap Token.text = s := by
  induction s with
  | nil => rfl
  | cons c s ih => rw [List.map_cons, List.flatMap_cons, ih]; rfl

/-- What is read of the tokens is written in the text. -/
theorem infix_text (ts rest : List Token) (h : ts ++ rest <:+ all) :
    ts.flatMap Token.text <:+: all.flatMap Token.text := by
  obtain ⟨before, rfl⟩ := h
  exact ⟨before.flatMap Token.text, rest.flatMap Token.text, by simp⟩

/-- Behind an opening brace, a bound that is too large is one of a quantifier. -/
theorem braces_gives {r : Reading} (h : .plain '\x7b' :: r.tokens <:+ all) :
    Gives (fun p => p.2.Within all) (IsOf all) (braces.run r) := by
  have hr : r.Within all := (List.suffix_cons _ _).trans h
  obtain ⟨low, rest, hlow, htokens, hrun⟩ := run_takeWhile r.tokens.length Char.isDigit r
  rw [htokens] at h
  have hrest : rest <:+ all := (List.suffix_append _ rest).trans ((List.suffix_cons _ _).trans h)
  have hlowIn : '\x7b' :: low <:+: all.flatMap Token.text := by
    simpa [Token.text] using infix_text (.plain '\x7b' :: low.map .plain) rest h
  have hcount : Stays all (countOf low) :=
    countOf_stays fun hlarge => ⟨low, [], hlow, rfl, .inl ⟨hlarge, hlowIn⟩⟩
  have hset : Stays all (set r) := Keeps.set hr
  have hend (high : Text) (hhigh : Stays all (countOf high)) : Stays all (do
      if r.tokens.head? ≠ some (.plain '\x7d') && (← accept '\x7d') then
        let least ← countOf low
        let most ← countOf high
        if most.any (· < least.getD 0) then fail
        return some (least.getD 0, most)
      else
        set r
        return (none : Option (Nat × Option Nat))) := inferInstance
  unfold braces
  rw [run_get_bind, run_bind_of_ok hrun]
  rcases run_accept ',' { r with tokens := rest } with ⟨rest', hcomma, hrun'⟩ | hrun'
  · rw [run_bind_of_ok hrun']
    obtain ⟨high, rest'', hhigh, htokens', hrun''⟩ :=
      run_takeWhile r.tokens.length Char.isDigit { r with tokens := rest' }
    obtain rfl : rest = .plain ',' :: rest' := hcomma
    obtain rfl : rest' = high.map .plain ++ rest'' := htokens'
    have hhighIn : '\x7b' :: low ++ ',' :: high <:+: all.flatMap Token.text := by
      have hin := infix_text (.plain '\x7b' :: low.map .plain ++ .plain ',' :: high.map .plain)
        rest''
        (by simpa using h)
      simpa [Token.text] using hin
    rw [if_pos rfl, run_bind_of_ok hrun'']
    refine (hend high (countOf_stays fun hlarge => ?_)).gives _ ?_
    · exact ⟨low, high, hlow, hhigh, .inr ⟨hlarge, hhighIn⟩⟩
    · exact (List.suffix_append _ rest'').trans ((List.suffix_cons _ _).trans hrest)
  · rw [run_bind_of_ok hrun']
    exact (hend low hcount).gives _ hrest

instance quantify_stays (least : Nat) (most : Option Nat) (parts : List Part) :
    Stays all (quantify least most parts) := by
  unfold quantify
  split <;> infer_instance

/-! ### Groups -/

instance groupName_stays (close : Char) : Stays all (groupName close) := by
  unfold groupName
  infer_instance

instance openGroup_stays (name : Option Text) : Stays all (openGroup name) := by
  refine Keeps.get_bind fun r h => ?_
  have hset (names : List (Text × Nat)) : Stays all (set { r with
      nextGroup := r.nextGroup + 1, names }) := Keeps.set h
  cases name with
  | none => infer_instance
  | some name =>
    dsimp only
    split <;> infer_instance

instance closeGroup_stays (number : Nat) (body : Node) : Stays all (closeGroup number body) := by
  have hclosed :
      Stays all (modify fun r => { r with closed := (number, body.width) :: r.closed }) :=
    Keeps.modify fun _ h => h
  unfold closeGroup
  infer_instance

instance conditionGroup_stays : Stays all conditionGroup := by
  refine (takeUntil_stays _).seq fun written => Keeps.get_bind fun r h => ?_
  split
  · split <;> infer_instance
  · split
    · have hasked (n : Nat) : Reading.Within all { r with asked := n :: r.asked } := h
      exact (Keeps.set (hasked _)).seq fun _ => Keeps.pure _
    · infer_instance

instance opening_stays (fuel : Nat) : Stays all (opening fuel) := by
  unfold opening
  refine (accept_stays _).seq fun special => ?_
  split
  · infer_instance
  refine peek_stays.seq fun t => ?_
  split
  · split
    · infer_instance
    refine skip_stays.seq fun _ => ?_
    split <;> infer_instance
  · infer_instance

instance skipLine_stays : Stays all skipLine :=
  Keeps.modify fun _ h => ((List.drop_suffix _ _).trans (List.dropWhile_suffix _)).trans h

instance skipComment_stays : Stays all skipComment := by
  refine Keeps.get_bind fun r h => ?_
  dsimp only
  split
  · infer_instance
  · exact Keeps.set (((List.drop_suffix _ _).trans (List.dropWhile_suffix _)).trans h)

/-! ### The whole -/

theorem run_skip (r : Reading) : skip.run r = .ok ((), { r with tokens := r.tokens.tail }) := rfl

theorem run_peek_bind {α : Type} (f : Option Token → Reader α) (r : Reading) :
    (peek >>= f).run r = (f r.tokens.head?).run r := rfl

/-- What the readers that call each other have in common, for a number of turns. -/
structure AllStay (all : List Token) (fuel : Nat) : Prop where
  alternatives : ∀ spaced top first, Stays all (alternatives fuel spaced top first)
  sequence : ∀ spaced first parts, Stays all (sequence fuel spaced first parts)
  bracketed : ∀ spaced form, Stays all (bracketed fuel spaced form)

theorem allStay (fuel : Nat) : AllStay all fuel := by
  induction fuel with
  | zero => exact ⟨fun _ _ _ => fail_stays, fun _ _ _ => fail_stays, fun _ _ => fail_stays⟩
  | succ fuel ih =>
    obtain ⟨halternatives, hsequence, hbracketed⟩ := ih
    refine ⟨fun spaced top first => ?_, fun spaced first parts => ?_, fun spaced form => ?_⟩
    · unfold Pattern.alternatives
      infer_instance
    · have hmodes (m : Modes) : Stays all (modify fun r => { r with modes := r.modes.union m }) :=
        Keeps.modify fun _ h => h
      unfold Pattern.sequence
      refine ⟨fun r hr => ?_⟩
      rw [run_peek_bind]
      split
      · exact Keeps.gives r hr
      · exact Keeps.gives r hr
      · rename_i c hc
        have hnext : Reading.Within all { r with tokens := r.tokens.tail } :=
          (List.tail_suffix _).trans hr
        have hbrace (hc' : c = '\x7b') : .plain '\x7b' :: r.tokens.tail <:+ all := by
          obtain ⟨rest, hrest⟩ := List.head?_eq_some_iff.mp hc
          rw [← hc', hrest, List.tail_cons, ← hrest]
          exact hr
        refine Gives.run_ite (fun _ => Keeps.gives r hr) fun _ => ?_
        rw [run_bind_of_ok (run_skip r)]
        iterate 6 refine Gives.run_ite (fun _ => Keeps.gives _ hnext) fun _ => ?_
        refine Gives.run_ite (fun hc' => ?_) fun _ => ?_
        · refine (braces_gives (hbrace hc')).bind fun p hp => ?_
          obtain ⟨_ | ⟨least, most⟩, r'⟩ := p
          · exact Keeps.gives r' hp
          · exact Keeps.gives r' hp
        iterate 3 refine Gives.run_ite (fun _ => Keeps.gives _ hnext) fun _ => ?_
        refine Gives.run_ite (fun _ => ?_) fun _ => Keeps.gives _ hnext
        refine ((opening_stays fuel).gives _ hnext).bind fun p hp => ?_
        obtain ⟨form, r'⟩ := p
        dsimp only
        split
        · exact Keeps.gives r' hp
        · exact Gives.run_ite (fun _ => Keeps.gives r' hp) fun _ => Keeps.gives r' hp
        · exact Keeps.gives r' hp
    · have hnested (limit : Reading → Option Nat) :
          Stays all (modify fun r => { r with lookLimit := limit r }) := Keeps.modify fun _ h => h
      unfold Pattern.bracketed
      split
      case h_8 =>
        refine Keeps.get.seq fun r => ?_
        split <;> infer_instance
      all_goals infer_instance

/-- The tokens of a pattern are its text. -/
theorem flatMap_text_scan? {source : Text} {ts : List Token} (h : Token.scan? source = some ts) :
    ts.flatMap Token.text = source := by
  induction source using Token.scan?.induct generalizing ts with
  | case1 =>
    cases h
    rfl
  | case2 => cases h
  | case3 c rest ih =>
    obtain ⟨ts', hts', rfl⟩ := Option.map_eq_some_iff.mp h
    rw [List.flatMap_cons, ih hts']
    rfl
  | case4 c rest hc hc' ih =>
    rw [Token.scan?.eq_4 _ _ hc hc'] at h
    obtain ⟨ts', hts', rfl⟩ := Option.map_eq_some_iff.mp h
    rw [List.flatMap_cons, ih hts']
    rfl

/-- **A pattern is refused for a count that is too large** only if a quantifier in braces asks for
that many turns. -/
theorem compile_fails (source : Text) :
    FailsAs (fun fault => fault = .countTooLarge → CountsTooFar source)
      (Pattern.compile source) := by
  unfold Pattern.compile
  split
  · exact fun h => nomatch h
  · rename_i ts hscan
    have hread := ((allStay (4 * ts.length + 4)).alternatives false true true).gives
      ⟨ts, .none, 1, [], [], [], none⟩ List.suffix_rfl
    refine (hread.mono (fun _ h => h) fun fault hfault => ?_).bind fun p _ => ?_
    · rwa [IsOf, flatMap_text_scan? hscan] at hfault
    · dsimp only
      split
      · exact fun h => nomatch h
      · split
        · exact fun h => nomatch h
        · trivial

end Pattern

end Scaffold
