import Scaffold.Proofs.Yaml.Margin.Gap

/-!
# All tokens within margins
-/

namespace Scaffold

namespace Yaml

variable {m : Margin} {l l' t t' : Layout} {b : Beginning}

/-! ### Behind the text -/

/-- Closing some of the blocks and then all of them closes them all. -/
theorem Layout.closed_zero_closed (indent : Nat) (l : Layout) :
    (l.closed indent).closed 0 = l.closed 0 := by
  have hclose (hflow : l.flow = 0) (current : Nat) (outer : List Nat) (tokens : List Token) :
      (closed.close indent l current outer tokens).closed 0 =
        closed.close 0 l current outer tokens := by
    induction outer generalizing current tokens with
    | nil => exact if_pos hflow
    | cons o outer ih =>
      rw [closed.close]
      split
      · rename_i hlt
        rw [ih, closed.close, if_pos (Nat.zero_lt_of_lt hlt)]
      · obtain ⟨_, _, _, hzero⟩ := exists_close_eq 0 current (o :: outer) tokens
        rw [hzero l]
        exact (if_pos hflow).trans (hzero _)
  by_cases hflow : l.flow = 0
  · have hclosed (indent : Nat) :
        l.closed indent = closed.close indent l l.indent l.outer l.tokens :=
      if_pos hflow
    rw [hclosed indent, hclosed 0, hclose hflow]
  · have hclosed (indent : Nat) : l.closed indent = l := if_neg hflow
    rw [hclosed indent]

/-- What is closed depends on the blocks alone. -/
theorem Layout.tokens_closed_congr {indent : Nat} (hflow : t.flow = l.flow)
    (hindent : t.indent = l.indent) (houter : t.outer = l.outer) (htokens : t.tokens = l.tokens) :
    (t.closed indent).tokens = (l.closed indent).tokens := by
  obtain ⟨_, _, _, hclose⟩ := exists_close_eq indent l.indent l.outer l.tokens
  unfold closed
  rw [hflow, hindent, houter, htokens, hclose t, hclose l]
  split
  · rfl
  · exact htokens

/-- A key that is found is found among fewer keys too, if it is one of them. -/
theorem lookup_filter {keys : List (Nat × PossibleKey)} (keep : Nat × PossibleKey → Bool)
    {flow : Nat} {k : PossibleKey} (h : keys.lookup flow = some k) (hkeep : keep (flow, k) = true) :
    (keys.filter keep).lookup flow = some k := by
  obtain ⟨before, behind, rfl, hbefore⟩ := List.lookup_eq_some_iff.mp h
  rw [List.filter_append, List.filter_cons_of_pos hkeep]
  refine List.lookup_eq_some_iff.mpr ⟨_, _, rfl, fun p hp => hbefore p (List.mem_of_mem_filter hp)⟩

/-- What is found among some keys is found among fewer of them too. -/
theorem lookup_filter_of_imp {keys : List (Nat × PossibleKey)}
    {keep keep' : Nat × PossibleKey → Bool} {flow : Nat} {k : PossibleKey}
    (himp : ∀ p ∈ keys, keep' p = true → keep p = true)
    (h : (keys.filter keep).lookup flow = some k) (hkeep : keep' (flow, k) = true) :
    (keys.filter keep').lookup flow = some k := by
  have hfewer : (keys.filter keep).filter keep' = keys.filter keep' := by
    rw [List.filter_filter]
    refine List.filter_congr fun p hp => ?_
    rw [Bool.and_eq_left_iff_imp]
    exact himp p hp
  rw [← hfewer]
  exact lookup_filter keep' h hkeep

theorem beginningAt_of_end {c : Cursor} {flow : Bool} (hend : c.rest = []) :
    beginningAt flow c = .textEnd := by
  rw [beginningAt, Cursor.peek, hend]
  rfl

/-- Nothing begins with a blank. -/
theorem beginningAt_of_isGap {c : Cursor} {flow : Bool} (h : isGap c.peek = true) :
    beginningAt flow c = .unknown := by
  have hne (x : Char) (hx : isGap x = false) : (c.peek == x) = false :=
    beq_false_of_ne fun heq => absurd (hx.symm.trans (heq ▸ h)) (by decide)
  have hmarker (x : Char) (more : Text) (hx : isGap x = false) :
      c.atMarker (x :: more) = false := by
    have hfront : (x :: more).isPrefixOf c.rest = false := by
      cases hrest : c.rest with
      | nil => rfl
      | cons y rest =>
        have hpeek := hne x hx
        rw [Cursor.peek, hrest, List.headD_cons, Bool.beq_comm] at hpeek
        rw [List.isPrefixOf_cons_cons, hpeek, Bool.false_and]
    rw [Cursor.atMarker, hfront, Bool.false_and]
  have hgap : isGapOrEnd c.peek = true := by rw [isGapOrEnd_eq, h, Bool.or_true]
  simp (disch := decide) [beginningAt, beginsPlain, hne, hmarker, hgap]

namespace LayoutStep

theorem run_dropStaleKeys (l : Layout) :
    dropStaleKeys.run l =
      if l.keys.any fun p => l.isStale p.2 && p.2.required then .error .malformed
      else .ok ((), { l with keys := l.keys.filter fun p => !l.isStale p.2 }) := by
  rw [dropStaleKeys, run_get_bind]
  split <;> rfl

theorem run_dropKey (l : Layout) :
    dropKey.run l = match l.keys.lookup l.flow with
      | none => .ok ((), l)
      | some k =>
        if k.required then .error .malformed
        else .ok ((), { l with keys := l.keys.filter (·.1 ≠ l.flow) }) := by
  rw [dropKey, run_get_bind]
  cases l.keys.lookup l.flow with
  | none => rfl
  | some k =>
    dsimp only
    split <;> rfl

/-- The end of the text is one where no key is required any more. -/
theorem exists_run_textEnd_iff {flow : Bool} {indent : Nat} {tokens : List Token} :
    (∃ l', (token flow .textEnd).run (l.closed indent) = .ok ((), l') ∧ l'.tokens = tokens) ↔
      (∀ k ∈ l.keys.lookup l.flow, k.required = false) ∧
        .streamEnd :: (l.closed 0).tokens = tokens := by
  have hrun : (token flow .textEnd).run (l.closed indent) =
      (do dropKey; push .streamEnd).run ((l.closed indent).closed 0) := rfl
  rw [hrun, Layout.closed_zero_closed, StateT.run_bind, run_dropKey, Layout.closed_keys,
    Layout.closed_flow]
  cases l.keys.lookup l.flow with
  | none =>
    constructor
    · rintro ⟨_, ⟨-, rfl⟩, rfl⟩
      exact ⟨nofun, rfl⟩
    · rintro ⟨-, rfl⟩
      exact ⟨_, rfl, rfl⟩
  | some k =>
    dsimp only
    constructor
    · rintro ⟨_, hrun, rfl⟩
      split at hrun
      · exact nomatch hrun
      · rename_i hnot
        obtain ⟨-, rfl⟩ := hrun
        exact ⟨fun _ hk => Option.some.inj hk ▸ Bool.eq_false_iff.mpr hnot, rfl⟩
    · rintro ⟨hnot, rfl⟩
      rw [if_neg (Bool.eq_false_iff.mp (hnot k rfl))]
      exact ⟨_, rfl, rfl⟩

theorem run_emit_eq_ok_iff :
    emit.run l = .ok (b, l') ↔ ∃ l₁, dropStaleKeys.run l = .ok ((), l₁) ∧
      beginningAt (l₁.flow != 0) l₁.cursor = b ∧
        (token (l₁.flow != 0) b).run (l₁.closed (l₁.cursor.column + 1)) = .ok ((), l') := by
  have hbegin {l₁ l₂ : Layout} (hflow : l₂.flow = l₁.flow) (hcursor : l₂.cursor = l₁.cursor) :
      (do
        let l ← get
        let beginning := beginningAt (l.flow != 0) l.cursor
        token (l.flow != 0) beginning
        return beginning : LayoutStep Beginning).run l₂ =
      (do
        let beginning := beginningAt (l₁.flow != 0) l₁.cursor
        token (l₁.flow != 0) beginning
        return beginning).run l₂ := by
    rw [run_get_bind, hflow, hcursor]
  have hrest (l₁ : Layout) := hbegin (Layout.closed_flow (l₁.cursor.column + 1) l₁)
    (Layout.closed_cursor (l₁.cursor.column + 1) l₁)
  constructor
  · intro hrun
    obtain ⟨_, l₁, hstale, hrun⟩ := exists_of_run_bind hrun
    replace hrun := (hrest l₁).symm.trans hrun
    obtain ⟨_, _, htoken, ⟨rfl, rfl⟩⟩ := exists_of_run_bind hrun
    exact ⟨l₁, hstale, rfl, htoken⟩
  · rintro ⟨l₁, hstale, rfl, htoken⟩
    rw [emit, run_bind_of_ok hstale]
    refine (hrest l₁).trans ?_
    rw [run_bind_of_ok htoken]
    rfl

/-- The last token says that no required key is left behind. -/
theorem exists_run_emit_iff (hend : l.cursor.rest = []) {tokens : List Token} :
    (∃ l', emit.run l = .ok (b, l') ∧ l'.tokens = tokens) ↔
      b = .textEnd ∧ (∀ p ∈ l.keys, l.isStale p.2 = true → p.2.required = false) ∧
        (∀ k ∈ (l.keys.filter fun p => !l.isStale p.2).lookup l.flow, k.required = false) ∧
          .streamEnd :: (l.closed 0).tokens = tokens := by
  have hany : (l.keys.any fun p => l.isStale p.2 && p.2.required) = true ↔
      ¬∀ p ∈ l.keys, l.isStale p.2 = true → p.2.required = false := by
    simp
  have hclosed (keys : List (Nat × PossibleKey)) :
      ({ l with keys := keys }.closed 0).tokens = (l.closed 0).tokens :=
    Layout.tokens_closed_congr rfl rfl rfl rfl
  constructor
  · rintro ⟨l', hrun, rfl⟩
    obtain ⟨l₁, hstale, hb, htoken⟩ := run_emit_eq_ok_iff.mp hrun
    rw [run_dropStaleKeys] at hstale
    split at hstale
    · exact nomatch hstale
    rename_i hfresh
    obtain ⟨-, rfl⟩ := hstale
    obtain rfl : b = .textEnd := hb ▸ beginningAt_of_end hend
    obtain ⟨hrequired, htokens⟩ := exists_run_textEnd_iff.mp ⟨l', htoken, rfl⟩
    rw [hclosed] at htokens
    exact ⟨rfl, not_not.mp (mt hany.mpr hfresh), hrequired, htokens⟩
  · rintro ⟨rfl, hfresh, hrequired, rfl⟩
    have hstale := run_dropStaleKeys l
    rw [if_neg fun h => hany.mp h hfresh] at hstale
    obtain ⟨l', htoken, htokens⟩ := exists_run_textEnd_iff
      (l := { l with keys := l.keys.filter fun p => !l.isStale p.2 }).mpr ⟨hrequired, rfl⟩
    rw [hclosed] at htokens
    exact ⟨l', run_emit_eq_ok_iff.mpr ⟨_, hstale, beginningAt_of_end hend, htoken⟩, htokens⟩

/-- A key that is given up without the blanks is given up with them: its colon is missed later, if
at all. -/
theorem isStale_of_pairs (h : m.Pairs t l) {k : PossibleKey} (hline : k.line ≤ l.cursor.line)
    (hstale : l.isStale k = true) : t.isStale (k.within m) = true := by
  have hlater := h.cursor.leads.line_le
  have hindex := h.cursor.leads.index_le
  simp only [Layout.isStale, Bool.or_eq_true, bne_iff_ne, decide_eq_true_eq] at hstale ⊢
  dsimp only [Cursor.within, PossibleKey.within] at hlater hindex ⊢
  omega

/-- **At the end of the text** the blanks behind it do not count. A key that is still possible there
is one with the blanks too, or was given up on the way. -/
theorem emit_of_end (h : m.Pairs t l) (hend : l.cursor.rest = [])
    (hkeys : ∀ p ∈ l.keys, p.2.line ≤ l.cursor.line) (hgap : isGap t.cursor.peek = false)
    (hrun : emit.run t = .ok (b, t')) :
    b = .textEnd ∧ ∃ l', emit.run l = .ok (b, l') ∧ l'.tokens = t'.tokens := by
  have htend : t.cursor.rest = [] := (h.cursor.blank hend).rest_eq_nil hgap
  obtain ⟨hflow, hindent, houter, htokens', htkeys⟩ : t.flow = l.flow ∧ t.indent = l.indent ∧
      t.outer = l.outer ∧ t.tokens = l.tokens ∧
        t.keys = l.keys.map fun p => (p.1, p.2.within m) := by
    rw [h.eq_within]
    exact ⟨rfl, rfl, rfl, rfl, rfl⟩
  obtain ⟨rfl, hfresh, hrequired, htokens⟩ := (exists_run_emit_iff htend).mp ⟨t', hrun, rfl⟩
  rw [htkeys] at hfresh hrequired
  rw [List.forall_mem_map] at hfresh
  refine ⟨rfl, (exists_run_emit_iff hend).mpr ⟨rfl, fun p hp hstale => ?_, fun k hk => ?_, ?_⟩⟩
  · exact hfresh p hp (isStale_of_pairs h (hkeys p hp) hstale)
  · refine Bool.eq_false_iff.mpr fun hreq => ?_
    obtain ⟨_, _, hsplit, -⟩ := List.lookup_eq_some_iff.mp hk
    have hmem : (l.flow, k) ∈ l.keys.filter fun p => !l.isStale p.2 := by simp [hsplit]
    have hkeep : t.isStale (k.within m) = false := Bool.eq_false_iff.mpr fun hstale =>
      Bool.false_ne_true ((hfresh _ (List.mem_of_mem_filter hmem) hstale).symm.trans hreq)
    have hfewer (p : Nat × PossibleKey) (hp : p ∈ l.keys)
        (hlive : (!t.isStale (p.2.within m)) = true) : (!l.isStale p.2) = true := by
      rw [Bool.not_eq_true', Bool.eq_false_iff] at hlive ⊢
      exact mt (isStale_of_pairs h (hkeys p hp)) hlive
    have hfound := lookup_filter_of_imp hfewer hk (by rw [hkeep]; rfl)
    have hfound' : k.within m ∈ ((l.keys.map fun p => (p.1, p.2.within m)).filter
        fun p => !t.isStale p.2).lookup t.flow := by
      rw [List.filter_map, LayoutStep.lookup_within, hflow]
      exact Option.mem_map_of_mem _ hfound
    exact Bool.false_ne_true ((hrequired _ hfound').symm.trans hreq)
  · rw [← htokens, Layout.tokens_closed_congr hflow hindent houter htokens']

theorem textEnd_follows {flow : Bool} :
    Follows (fun _ => False) (fun t l => t.tokens = l.tokens) (l.within m) l (token flow .textEnd)
      (token flow .textEnd) :=
  .seq_stands (closeBlocks_stands 0) rfl fun _ _ h => .seq_stands dropKey_stands h fun _ _ _ =>
    .of_run rfl rfl rfl

/-- **The token at a place of the text** is the same with the blanks around it, unless it is a block
scalar that runs on into them. -/
theorem emit_follows (h : m.Pairs t l) (hkeys : ∀ p ∈ l.keys, p.2.line ≤ l.cursor.line)
    (hgap : isGap t.cursor.peek = false) (hrun : emit.run t = .ok (b, t'))
    (hlive : ¬(b.isBlock = true ∧ m.Lost t'.cursor ∧ ¬m.Spares t.cursor)) :
    ∃ l', emit.run l = .ok (b, l') ∧ (b = .textEnd → t'.tokens = l'.tokens) ∧
      (b ≠ .textEnd → m.Pairs t' l' ∧ l'.cursor.rest.length < l.cursor.rest.length) := by
  by_cases hend : l.cursor.rest = []
  · obtain ⟨rfl, l', hrun', htokens⟩ := emit_of_end h hend hkeys hgap hrun
    exact ⟨l', hrun', fun _ => htokens.symm, fun hne => absurd rfl hne⟩
  obtain rfl := h.eq_of_ne hend
  obtain ⟨t₁, hstale, hb, htoken⟩ := run_emit_eq_ok_iff.mp hrun
  obtain ⟨l₁, hstale', ⟨hcursor, hflow⟩, rfl⟩ := dropStaleKeys_stands () t₁ hstale id
  have hshows : l₁.cursor.Shows m := .inr (hcursor ▸ hend)
  have hb' : beginningAt (l₁.flow != 0) l₁.cursor = b := (beginningAt_within hshows _).symm.trans hb
  replace htoken : (token (l₁.flow != 0) b).run ((l₁.closed (l₁.cursor.column + 1)).within m) =
      .ok ((), t') := Layout.closed_within m (l₁.cursor.column + 1) l₁ ▸ htoken
  by_cases hne : b = .textEnd
  · subst hne
    obtain ⟨l', hl', htokens⟩ := textEnd_follows () t' htoken id
    exact ⟨l', run_emit_eq_ok_iff.mpr ⟨l₁, hstale', hb', hl'⟩, fun _ => htokens,
      fun hne => absurd rfl hne⟩
  · have hcursor' := (Layout.closed_cursor (l₁.cursor.column + 1) l₁).trans hcursor
    have hlive' : ¬(b.isBlock = true ∧ m.Lost t'.cursor ∧
        ¬m.Spares (l₁.closed (l₁.cursor.column + 1)).cursor) := by
      rw [hcursor']
      refine mt (And.imp_right (And.imp_right (mt fun hspares => ⟨?_, hspares.2⟩))) hlive
      exact Lexer.chomping_of_within h.cursor.solid (List.length_pos_iff.mpr hend) hspares.1
    obtain ⟨l', hl', hpairs, hlt⟩ := token_follows (hcursor' ▸ h.cursor.solid)
      (by rw [Layout.closed_flow]) (by rw [Layout.closed_cursor]; exact hb') hne () t' htoken hlive'
    rw [hcursor'] at hlt
    exact ⟨l', run_emit_eq_ok_iff.mpr ⟨l₁, hstale', hb', hl'⟩, fun hend => absurd hend hne,
      fun _ => ⟨hpairs, hlt⟩⟩

/-! ### All tokens -/

theorem run_emit_of_isGap (h : isGap l.cursor.peek = true) : emit.run l ≠ .ok (b, l') := by
  intro hrun
  obtain ⟨l₁, hstale, hb, htoken⟩ := run_emit_eq_ok_iff.mp hrun
  rw [run_dropStaleKeys] at hstale
  split at hstale
  · exact nomatch hstale
  · obtain ⟨-, rfl⟩ := hstale
    obtain rfl : b = .unknown := hb ▸ beginningAt_of_isGap h
    exact nomatch htoken

theorem eq_textEnd_of_run_emit (h : l.cursor.Blank) (hrun : emit.run l = .ok (b, l')) :
    b = .textEnd := by
  cases hrest : l.cursor.rest with
  | nil => exact ((exists_run_emit_iff hrest).mp ⟨l', hrun, rfl⟩).1
  | cons x rest =>
    refine absurd hrun (run_emit_of_isGap ?_)
    rw [Cursor.peek, hrest]
    exact h x (by simp [hrest])

/-- A step from the text within the blanks is one of the text, unless it reads a block scalar that
runs on into the blanks. -/
theorem step_follows {t₁ : Layout}
    (harrive : Follows (fun t => isGap t.cursor.peek = true) m.Pairs t l arrive arrive)
    (hkeys : ∀ p ∈ l.keys, p.2.line ≤ l.cursor.line) (hrun : arrive.run t = .ok ((), t₁))
    (hemit : emit.run t₁ = .ok (b, t'))
    (hlive : ¬(b.isBlock = true ∧ m.Lost t'.cursor ∧ ¬m.Spares t₁.cursor)) :
    ∃ l', step.run l = .ok (b, l') ∧ (b = .textEnd → t'.tokens = l'.tokens) ∧
      (b ≠ .textEnd → m.Pairs t' l' ∧ l'.cursor.rest.length < l.cursor.rest.length) := by
  have hgap : isGap t₁.cursor.peek = false :=
    Bool.eq_false_iff.mpr fun hgap => run_emit_of_isGap hgap hemit
  obtain ⟨l₁, hrun', hpairs⟩ := harrive () t₁ hrun (Bool.eq_false_iff.mp hgap)
  have hl₁ : l₁.After l.cursor := (arrive_stays.gives l ⟨.refl _, hkeys⟩).ok hrun'
  obtain ⟨l', hemit', hend, hmore⟩ := emit_follows hpairs hl₁.2 hgap hemit hlive
  refine ⟨l', by rw [step, run_bind_of_ok hrun', hemit'], hend, fun hne => ?_⟩
  exact ⟨(hmore hne).1, Nat.lt_of_lt_of_le (hmore hne).2 hl₁.1.length_le⟩

theorem run_steps_succ {n : Nat} (h : step.run l = .ok (b, l')) :
    (steps (n + 1)).run l = if b = .textEnd then .ok ((), l') else (steps n).run l' := by
  rw [steps, run_bind_of_ok h]
  by_cases hb : b = .textEnd
  · rw [if_pos hb, if_pos (beq_iff_eq.mpr hb)]
    rfl
  · rw [if_neg hb, if_neg (mt beq_iff_eq.mp hb)]

/-- The chomping of the block scalar that a text ends with: it is read, and only blanks are left. -/
def blockAtEnd? : (fuel : Nat) → LayoutStep (Option Lexer.Chomping)
  | 0 => return none
  | fuel + 1 => do
    arrive
    let c := (← get).cursor
    let beginning ← emit
    if beginning == .textEnd then return none
    if beginning.isBlock && (← get).cursor.rest.all isGap then return some (Lexer.chomping c)
    blockAtEnd? fuel

theorem run_blockAtEnd?_succ {n : Nat} {l₁ : Layout} (h : arrive.run l = .ok ((), l₁))
    (hemit : emit.run l₁ = .ok (b, l')) (hb : b ≠ .textEnd) :
    (blockAtEnd? (n + 1)).run l =
      if b.isBlock && l'.cursor.rest.all isGap then .ok (some (Lexer.chomping l₁.cursor), l')
      else (blockAtEnd? n).run l' := by
  rw [blockAtEnd?, run_bind_of_ok h, run_get_bind, run_bind_of_ok hemit,
    if_neg (mt beq_iff_eq.mp hb), run_get_bind]
  split <;> rfl

theorem run_blockAtEnd?_of_blank {n : Nat} {chomping : Lexer.Chomping} (h : l.cursor.Blank) :
    (blockAtEnd? n).run l ≠ .ok (some chomping, l') := by
  intro hrun
  cases n with
  | zero => exact nomatch hrun
  | succ n =>
    obtain ⟨_, l₁, harrive, hrun⟩ := exists_of_run_bind hrun
    rw [run_get_bind] at hrun
    obtain ⟨b, l₂, hemit, hrun⟩ := exists_of_run_bind hrun
    obtain rfl := eq_textEnd_of_run_emit (h.of_leads (leads_of_run_arrive harrive)) hemit
    exact nomatch hrun

/-- **The tokens of a text** within blanks are those of the text, unless the text ends in a block
scalar that keeps line ends. -/
theorem steps_follow {n₁ n₂ : Nat}
    (harrive : Follows (fun t => isGap t.cursor.peek = true) m.Pairs t l arrive arrive)
    (hkeys : ∀ p ∈ l.keys, p.2.line ≤ l.cursor.line) (hn : l.cursor.rest.length < n₂)
    (hblock : ∀ chomping t'', (blockAtEnd? n₁).run t = .ok (some chomping, t'') →
      m.behind = [] ∨ chomping = Lexer.Chomping.strip ∧ ∀ x ∈ m.behind, isBreak x = true)
    (hrun : (steps n₁).run t = .ok ((), t')) :
    ∃ l', (steps n₂).run l = .ok ((), l') ∧ t'.tokens = l'.tokens := by
  induction n₁ generalizing t l n₂ with
  | zero => exact nomatch hrun
  | succ n₁ ih =>
    obtain ⟨n₂, rfl⟩ := Nat.exists_eq_add_one_of_ne_zero (n := n₂) (by omega)
    obtain ⟨b, t₂, hstep, -⟩ := exists_of_run_bind hrun
    obtain ⟨_, t₁, harrived, hemit⟩ := exists_of_run_bind hstep
    rw [run_steps_succ hstep] at hrun
    have hlive : ¬(b.isBlock = true ∧ m.Lost t₂.cursor ∧ ¬m.Spares t₁.cursor) := by
      rintro ⟨hisBlock, ⟨hbehind, hblank⟩, hspares⟩
      have hne : b ≠ .textEnd := by
        rintro rfl
        exact Bool.false_ne_true hisBlock
      have hrun₂ := run_blockAtEnd?_succ (n := n₁) harrived hemit hne
      rw [hisBlock, Bool.true_and, if_pos (List.all_eq_true.mpr hblank)] at hrun₂
      exact hspares ((hblock _ t₂ hrun₂).resolve_left hbehind)
    obtain ⟨l₁, hstep', hend, hmore⟩ := step_follows harrive hkeys harrived hemit hlive
    rw [run_steps_succ hstep']
    by_cases hb : b = .textEnd
    · rw [if_pos hb] at hrun ⊢
      obtain ⟨-, rfl⟩ := hrun
      exact ⟨l₁, rfl, hend hb⟩
    · rw [if_neg hb] at hrun ⊢
      obtain ⟨hpairs, hlt⟩ := hmore hb
      have hl₁ : l₁.After l.cursor := (step_stays.gives l ⟨.refl _, hkeys⟩).ok hstep'
      have hindex := hl₁.1.index_add_length
      have harrive' := arrive_pairs hpairs (.inr fun hzero => by omega)
      refine ih (harrive'.mono (fun _ => False.elim) fun _ _ h => h) hl₁.2 (by omega) ?_ hrun
      intro chomping t'' hlast
      have hrun₂ := run_blockAtEnd?_succ (n := n₁) harrived hemit hb
      split at hrun₂
      · rename_i hlost
        have hblank := List.all_eq_true.mp (Bool.and_eq_true_iff.mp hlost).2
        exact absurd hlast (run_blockAtEnd?_of_blank hblank)
      · exact hblock chomping t'' (hrun₂.trans hlast)

end LayoutStep

/-- The chomping of the block scalar that a text ends with, if it does. -/
def blockAtEnd? (s : Text) : Option Lexer.Chomping :=
  match (LayoutStep.blockAtEnd? (s.length + 2)).run (.start s) with
  | .ok (chomping, _) => chomping
  | .error _ => none

theorem tokens_eq_ok_iff {s : Text} {ts : List Token} :
    tokens s = .ok ts ↔ s.all isAllowed = true ∧
      ∃ l, (LayoutStep.steps (s.length + 2)).run (.start s) = .ok ((), l) ∧
        l.tokens.reverse = ts := by
  unfold tokens
  cases s.all isAllowed with
  | false => exact iff_of_false (fun h => by cases h) fun h => Bool.false_ne_true h.1
  | true =>
    rw [and_iff_right rfl]
    cases (LayoutStep.steps (s.length + 2)).run (.start s) with
    | error e => simp
    | ok r =>
      obtain ⟨⟨⟩, l⟩ := r
      simp

/-- **The tokens of a text** stay the same when blanks are taken away in front of a line and at the
end. At the end no block scalar may take part in them, and what was not at the beginning before may
not be taken for a byte order mark. -/
theorem tokens_of_blanks {front s behind : Text} {ts : List Token}
    (hfront : ∀ x ∈ front, isGap x = true) (hlast : ∀ x ∈ front.getLast?, isBreak x = true)
    (hbehind : ∀ x ∈ behind, isGap x = true) (hhead : ∀ x ∈ (s ++ behind).head?, isGap x = false)
    (hsolid : ∀ x ∈ s.getLast?, isGap x = false)
    (hbom : front = [] ∨ (Cursor.start s).peek.toNat ≠ 0xFEFF)
    (hblock : ∀ chomping ∈ blockAtEnd? (front ++ (s ++ behind)),
      behind = [] ∨ chomping = Lexer.Chomping.strip ∧ ∀ x ∈ behind, isBreak x = true)
    (h : tokens (front ++ (s ++ behind)) = .ok ts) : tokens s = .ok ts := by
  obtain ⟨hallowed, t', hrun, rfl⟩ := tokens_eq_ok_iff.mp h
  have hallowed' : s.all isAllowed = true := by
    rw [List.all_append, List.all_append] at hallowed
    exact (Bool.and_eq_true_iff.mp (Bool.and_eq_true_iff.mp hallowed).2).1
  obtain ⟨b, _, hstep, -⟩ := exists_of_run_bind hrun
  obtain ⟨_, t₁, harrive, hemit⟩ := exists_of_run_bind hstep
  obtain hgap | ⟨m, l₁, rfl, harrive', hpairs⟩ :=
    LayoutStep.arrive_of_gaps hfront hlast hbehind hhead hsolid hbom harrive
  · exact absurd hemit (LayoutStep.run_emit_of_isGap hgap)
  have hblock' (chomping : Lexer.Chomping) (t'' : Layout) (hlast : (LayoutStep.blockAtEnd?
      ((front ++ (s ++ m.behind)).length + 2)).run (.start (front ++ (s ++ m.behind))) =
        .ok (some chomping, t'')) :
      m.behind = [] ∨ chomping = .strip ∧ ∀ x ∈ m.behind, isBreak x = true :=
    hblock chomping (by rw [blockAtEnd?, hlast]; rfl)
  have hn : (Layout.start s).cursor.rest.length < s.length + 2 :=
    Nat.lt_add_of_pos_right (Nat.zero_lt_two)
  obtain ⟨l', hrun', htokens⟩ := LayoutStep.steps_follow (.of_run harrive harrive' hpairs) nofun hn
    hblock' hrun
  exact tokens_eq_ok_iff.mpr ⟨hallowed', l', hrun', by rw [htokens]⟩

end Yaml

end Scaffold
