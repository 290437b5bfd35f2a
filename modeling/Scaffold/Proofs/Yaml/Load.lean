import Scaffold.Proofs.Yaml.Node
import Scaffold.Yaml.Load

/-!
# Documents without a value

A document has nodes, and some of its scalars may have no value: one is tagged as a number and is
none, or looks like a day that is not in the calendar. Such a fault has nothing to do with how the
document is put together, and everything else that can be wrong with it is malformed.

The nodes that a value is made of are those of the graph, with two exceptions: an alias that stands
for nothing, and the key for a default value, which is taken as text. Neither has a fault.

## Main definitions

* `Yaml.Graph.Has` — the nodes of a graph
* `Yaml.Graph.Spoils` — the faults of the scalars among them

## Main results

* `Yaml.load_fails` — the faults that keep a text from having a value
* `Yaml.Scalar.tag_of_read` — the kinds of scalars that have faults other than being malformed
-/

namespace Scaffold

namespace Yaml

variable {d : Graph} {node : Node} {fuel : Nat} {fault : Fault}

/-! ### Nodes of a graph -/

/-- The nodes of a graph. -/
inductive Graph.Has (d : Graph) : Node → Prop
  | root : d.Has d.root
  | anchored {n : Nat} {node : Node} : (n, node) ∈ d.anchored → d.Has node
  | item {n : Nat} {tag : Tag} {items : List Node} {item : Node} :
    d.Has (.seq n tag items) → item ∈ items → d.Has item
  | key {n : Nat} {tag : Tag} {pairs : List (Node × Node)} {k v : Node} :
    d.Has (.map n tag pairs) → (k, v) ∈ pairs → d.Has k
  | value {n : Nat} {tag : Tag} {pairs : List (Node × Node)} {k v : Node} :
    d.Has (.map n tag pairs) → (k, v) ∈ pairs → d.Has v

/-- What takes the place of a node: itself, what stands where nothing is written, or a text, as the
key for the default value is one. -/
def Graph.Meets (d : Graph) (node : Node) : Prop :=
  d.Has node ∨ node = Composer.nothing ∨ ∃ s, node = .scalar .text s

/-- The faults of scalars: the text of a node is not of the kind that its tag asks for, or a mapping
with such a text is tagged as a time. -/
inductive Graph.Spoils (d : Graph) : Fault → Prop
  | text {node : Node} {fuel : Nat} {s : Text} {fault : Fault} :
    d.Has node → scalarText d fuel node = .ok s → Scalar.read (tagOf node) s = .error fault →
      d.Spoils fault
  | moment {n : Nat} {pairs : List (Node × Node)} {fuel : Nat} {s : Text} :
    d.Has (.map n .moment pairs) → scalarText d fuel (.map n .moment pairs) = .ok s →
      d.Spoils .momentOfMap

/-- The faults that the nodes of a graph can have. -/
def Graph.IsOf (d : Graph) (fault : Fault) : Prop := fault = .malformed ∨ d.Spoils fault

/-- Pairs of nodes, as a mapping of the graph has them. -/
def Graph.MeetsAll (d : Graph) (pairs : List (Node × Node)) : Prop :=
  ∀ p ∈ pairs, d.Meets p.1 ∧ d.Meets p.2

theorem Graph.MeetsAll.flatten {pss : List (List (Node × Node))} (h : ∀ ps ∈ pss, d.MeetsAll ps) :
    d.MeetsAll pss.flatten := fun p hp => by
  obtain ⟨ps, hps, hp⟩ := List.mem_flatten.mp hp
  exact h ps hps p hp

theorem Graph.MeetsAll.append {ps qs : List (Node × Node)} (hps : d.MeetsAll ps)
    (hqs : d.MeetsAll qs) : d.MeetsAll (ps ++ qs) := fun p hp =>
  (List.mem_append.mp hp).elim (hps p) (hqs p)

theorem Graph.Meets.target (h : d.Meets node) : d.Meets (d.target node) := by
  unfold Graph.target
  split
  · rename_i n
    rcases hlookup : d.anchored.lookup n with _ | found
    · exact .inr (.inl rfl)
    · obtain ⟨before, after, hsplit, -⟩ := List.lookup_eq_some_iff.mp hlookup
      exact .inl (.anchored (n := n) (by simp [hsplit]))
  · exact h

theorem Graph.Meets.plainKey (h : d.Meets node) : d.Meets (plainKey node) := by
  unfold Yaml.plainKey
  split
  · exact .inr (.inr ⟨_, rfl⟩)
  · exact h

theorem Graph.Meets.pairs {n : Nat} {tag : Tag} {pairs : List (Node × Node)}
    (h : d.Meets (.map n tag pairs)) : d.MeetsAll pairs := by
  rcases h with h | h | ⟨s, h⟩
  · exact fun _ hp => ⟨.inl (h.key hp), .inl (h.value hp)⟩
  · cases h
  · cases h

theorem Graph.Meets.items {n : Nat} {tag : Tag} {items : List Node}
    (h : d.Meets (.seq n tag items)) : ∀ item ∈ items, d.Meets item := by
  rcases h with h | h | ⟨s, h⟩
  · exact fun _ hitem => .inl (h.item hitem)
  · cases h
  · cases h

/-- The own pairs of a mapping, their keys looked up. -/
theorem Graph.MeetsAll.own {pairs : List (Node × Node)} (test : Node × Node → Bool)
    (h : d.MeetsAll pairs) :
    d.MeetsAll ((pairs.filter test).map fun (k, v) => (Yaml.plainKey (d.target k), v)) := by
  intro p hp
  obtain ⟨q, hq, rfl⟩ := List.mem_map.mp hp
  have hboth := h q (List.mem_filter.mp hq).1
  exact ⟨hboth.1.target.plainKey, hboth.2⟩

/-! ### Merged mappings -/

/-- The pairs of a mapping with the merged ones are those of mappings of the graph. -/
theorem flatten_gives (fuel : Nat) (inside : List Nat) {pairs : List (Node × Node)}
    (hpairs : d.MeetsAll pairs) :
    Gives d.MeetsAll (fun fault => fault = .malformed) (flatten d fuel inside pairs) := by
  induction fuel generalizing inside pairs with
  | zero => exact rfl
  | succ fuel ih =>
    unfold flatten
    extract_lets own mappingPairs
    have hmapping (node : Node) (h : d.Meets node) :
        Gives d.MeetsAll (fun fault => fault = .malformed) (mappingPairs node) := by
      unfold mappingPairs
      split
      · split
        · exact fun p hp => h.pairs p (List.mem_filter.mp hp).1
        · exact ih _ h.pairs
      · rfl
    refine Gives.bind (Gives.mapM d.MeetsAll fun p hp => ?_) fun merged hmerged => ?_
    · have htarget := (hpairs p (List.mem_filter.mp hp).1).2.target
      dsimp only
      split
      · rename_i heq
        rw [heq] at htarget
        refine (Gives.mapM d.MeetsAll fun item hitem => ?_).bind fun parts hparts => ?_
        · exact hmapping _ (htarget.items item hitem).target
        · exact Graph.MeetsAll.flatten (by simpa using hparts)
      · exact hmapping _ htarget
    · exact (Graph.MeetsAll.flatten hmerged).append (hpairs.own _)

/-! ### Scalars -/

/-- Bytes in base 64 are malformed or in order. -/
theorem decodeBase64_fails (held : List Nat) (padding : Nat) (s : Text) :
    FailsAs (fun fault => fault = .malformed) (Scalar.decodeBase64 held padding s) := by
  fun_induction Scalar.decodeBase64 held padding s with
  | case1 => trivial
  | case2 => rfl
  | case3 => trivial
  | case4 held padding rest _ ih => exact ih
  | case5 held padding c rest _ _ ih => exact ih
  | case6 padding c rest _ d _ a b e ih => exact ih.map fun _ _ => trivial
  | case7 held padding c rest _ d _ _ ih => exact ih

/-- **The kinds of scalars** that have faults other than being malformed are truth values, numbers
and times. -/
theorem Scalar.tag_of_read {tag : Tag} {s : Text} (h : Scalar.read tag s = .error fault)
    (hfault : fault ≠ .malformed) : tag ∈ [Tag.bool, .int, .float, .moment] := by
  cases tag
  case binary =>
    have hbytes : FailsAs (fun fault => fault = .malformed) (Scalar.readBytes s) := by
      unfold Scalar.readBytes
      split
      · exact decodeBase64_fails [] 0 s
      · rfl
    exact absurd ((hbytes.map fun _ _ => trivial : FailsAs _ _).error h) hfault
  case bool | int | float | moment => simp
  case null | text => cases h
  all_goals exact absurd (Except.error.inj h).symm hfault

theorem scalarText_fails (d : Graph) (fuel : Nat) (node : Node) :
    FailsAs (fun fault => fault = .malformed) (scalarText d fuel node) := by
  induction fuel generalizing node with
  | zero => exact rfl
  | succ fuel ih =>
    unfold scalarText
    split
    · trivial
    · split
      · exact ih _
      · exact rfl
    · exact rfl

/-- What a node is read as is the fault of a scalar of the graph, if it is one. -/
theorem read_fails {s : Text} (h : d.Meets node) (htext : scalarText d fuel node = .ok s) :
    FailsAs d.IsOf (Scalar.read (tagOf node) s) := by
  rcases h with h | rfl | ⟨t, rfl⟩
  · rcases hread : Scalar.read (tagOf node) s with e | v
    · exact .inr (.text h htext hread)
    · trivial
  · trivial
  · trivial

/-- A mapping that is read as a time is one of the graph. -/
theorem momentOfMap_fails {α : Type} {s : Text} (h : d.Meets node)
    (htext : scalarText d fuel node = .ok s) (htag : tagOf node = .moment)
    (hnode : ∀ tag t, node ≠ .scalar tag t) :
    FailsAs d.IsOf (throw .momentOfMap : Except Fault α) := by
  cases fuel with
  | zero => cases htext
  | succ fuel =>
    cases node with
    | map n tag pairs =>
      obtain rfl : tag = .moment := htag
      rcases h with h | h | ⟨t, h⟩
      · exact .inr (.moment h htext)
      · cases h
      · cases h
    | scalar tag t => exact absurd rfl (hnode tag t)
    | _ => cases htext

/-- A node that is met has a value as a scalar, or a fault of the graph. -/
theorem scalarValue_fails (h : d.Meets node) : FailsAs d.IsOf (scalarValue d fuel node) := by
  unfold scalarValue
  refine ((scalarText_fails d fuel node).mono (fun _ h => h) fun _ h => .inl h).seq
    fun s htext => ?_
  split
  · exact read_fails h htext
  · exact momentOfMap_fails h htext ‹_› fun tag t hnode => by simp_all
  · exact read_fails h htext

/-! ### Values -/

theorem singlePair_gives {item : Node} (h : d.Meets item) :
    Gives (fun p : Node × Node => d.Meets p.1 ∧ d.Meets p.2) (fun fault => fault = .malformed)
      (singlePair d item) := by
  have htarget := h.target
  unfold singlePair
  split
  · rename_i heq
    rw [heq] at htarget
    exact htarget.pairs _ (List.mem_singleton_self _)
  · exact rfl

/-- What filling a collection meets is of the graph. -/
def Graph.MeetsPart (d : Graph) (part : Except Fault (Bool × Node)) : Prop :=
  Gives (fun p => d.Meets p.2) d.IsOf part

/-- A pair is met as its two nodes. -/
theorem meetsPart_pair {p : Node × Node} (isKey : Bool) (h : d.Meets p.1 ∧ d.Meets p.2) :
    ∀ part ∈ [.ok (isKey, p.1), .ok (false, p.2)], d.MeetsPart part := by
  simpa [Graph.MeetsPart, Gives] using h

theorem meetsPart_error (h : fault = .malformed) : ∀ part ∈ [.error fault], d.MeetsPart part :=
  fun part hpart => by
    rw [List.mem_singleton.mp hpart]
    exact Or.inl h

theorem meetsPart_flatMap {α : Type} {xs : List α} {f : α → List (Except Fault (Bool × Node))}
    (h : ∀ x ∈ xs, ∀ part ∈ f x, d.MeetsPart part) : ∀ part ∈ xs.flatMap f, d.MeetsPart part :=
  fun part hpart => by
    obtain ⟨x, hx, hpart⟩ := List.mem_flatMap.mp hpart
    exact h x hx part hpart

theorem parts_give (h : d.Meets node) : ∀ part ∈ parts d fuel node, d.MeetsPart part := by
  unfold parts
  split
  case h_1 =>
    intro part hpart
    obtain ⟨item, hitem, rfl⟩ := List.mem_map.mp hpart
    exact h.items item hitem
  case h_2 | h_3 =>
    have hflat (inside : List Nat) := flatten_gives fuel inside h.pairs
    split
    · exact meetsPart_flatMap fun p hp => meetsPart_pair true ((hflat _).ok ‹_› p hp)
    · exact meetsPart_error ((hflat _).error ‹_›)
  case h_4 | h_5 =>
    refine meetsPart_flatMap fun item hitem => ?_
    have hsingle := singlePair_gives (h.items item hitem)
    split
    · exact meetsPart_pair false (hsingle.ok ‹_›)
    · exact meetsPart_error (hsingle.error ‹_›)
  case h_6 => exact meetsPart_error rfl

/-- The collections that are met are of the graph. -/
theorem meet_gives (fuel : Nat) (seen : List Nat) {ps : List (Except Fault (Bool × Node))}
    (h : ∀ part ∈ ps, d.MeetsPart part) :
    Gives (fun r : List Nat × List Node => ∀ node ∈ r.2, d.Meets node) d.IsOf
      (meet d fuel seen ps) := by
  induction ps generalizing seen with
  | nil => exact fun _ hnode => nomatch hnode
  | cons part ps ih =>
    rw [List.forall_mem_cons] at h
    have hrest (seen : List Nat) := ih seen h.2
    cases part with
    | error e => exact h.1
    | ok p =>
      obtain ⟨isKey, part⟩ := p
      have htarget : d.Meets (d.target part) := h.1.target
      have hmore : ∀ r : List Nat × List Node, (∀ node ∈ r.2, d.Meets node) →
          ∀ node ∈ d.target part :: r.2, d.Meets node :=
        fun r hr => List.forall_mem_cons.mpr ⟨htarget, hr⟩
      rw [meet]
      split
      · cases isKey with
        | true => exact Or.inl rfl
        | false =>
          split
          · split
            · exact hrest seen
            · exact (hrest _).bind hmore
          · exact (hrest _).bind hmore
      · exact (scalarValue_fails htarget).bind fun _ _ => hrest seen

theorem checkLevels_fails {seen : List Nat} {nodes : List Node} (h : ∀ node ∈ nodes, d.Meets node) :
    FailsAs d.IsOf (checkLevels d fuel seen nodes) := by
  induction fuel generalizing seen nodes with
  | zero => trivial
  | succ fuel ih =>
    cases nodes with
    | nil => trivial
    | cons node nodes =>
      rw [checkLevels]
      · refine Gives.bind (Gives.foldlM (fun r => ∀ node ∈ r.2, d.Meets node) ?_ ?_)
          fun r hr => ih hr
        · simp
        · intro r hr node hnode
          refine (meet_gives fuel r.1 (parts_give (h node hnode))).bind fun r' hr' => ?_
          exact fun node hnode => (List.mem_append.mp hnode).elim (hr node) (hr' node)
      · simp

theorem valueOf_fails {inside : List Nat} (h : d.Meets node) :
    FailsAs d.IsOf (valueOf d fuel inside node) := by
  induction fuel generalizing inside node with
  | zero => exact .inl rfl
  | succ fuel ih =>
    have hpair (within : List Nat) (p : Node × Node) (hp : d.Meets p.1 ∧ d.Meets p.2) :
        FailsAs d.IsOf (do return (← valueOf d fuel within p.1, ← valueOf d fuel within p.2)) :=
      (ih hp.1).bind fun _ _ => (ih hp.2).bind fun _ _ => trivial
    have hflat (inside : List Nat) {n : Nat} {tag : Tag} {pairs : List (Node × Node)}
        (h : d.Meets (.map n tag pairs)) : Gives d.MeetsAll d.IsOf (flatten d fuel inside pairs) :=
      (flatten_gives fuel inside h.pairs).mono (fun _ h => h) fun _ h => .inl h
    have hsingle (item : Node) (h : d.Meets item) :=
      (singlePair_gives h).mono (fun _ h => h) fun _ h => (Or.inl h : d.IsOf _)
    have htarget := h.target
    rw [valueOf]
    generalize d.target node = node' at htarget ⊢
    dsimp only
    split
    · exact scalarValue_fails htarget
    · split
      · trivial
      · split
        · exact (Gives.mapM _ fun item hitem => ih (htarget.items item hitem)).bind
            fun _ _ => trivial
        · exact (hflat _ htarget).bind fun pairs hpairs =>
            (Gives.mapM _ fun p hp => hpair _ p (hpairs p hp)).bind fun _ _ => trivial
        · exact (hflat _ htarget).bind fun pairs hpairs =>
            (Gives.mapM _ fun p hp => hpair _ p (hpairs p hp)).bind fun _ _ => trivial
        · refine (Gives.mapM (fun _ => True) fun item hitem => ?_).bind fun _ _ => trivial
          refine (hsingle item (htarget.items item hitem)).bind fun p hp => ?_
          exact (hpair _ p hp).bind fun _ _ => trivial
        · refine (Gives.mapM (fun _ => True) fun item hitem => ?_).bind fun _ _ => trivial
          refine (hsingle item (htarget.items item hitem)).bind fun p hp => ?_
          exact (hpair _ p hp).bind fun _ _ => trivial
        · exact .inl rfl

theorem value_fails (d : Graph) (fuel : Nat) : FailsAs d.IsOf (d.value fuel) := by
  have hroot : d.Meets d.root := .inl .root
  refine (meet_gives _ [] ?_).bind fun _ _ => (checkLevels_fails ?_).bind fun _ _ => ?_
  · simpa [Graph.MeetsPart, Gives] using hroot
  · split <;> simp [hroot]
  · exact (valueOf_fails hroot).bind fun _ _ => trivial

/-- **The value of a text** is missing only where the text is malformed, where an escape is the
number of no character, or where a scalar of the document is not of the kind that it is tagged as,
by hand or by its look. -/
theorem load_fails (text : Text) :
    FailsAs (fun fault => IsOfText text fault ∨ ∃ d, document? text = .ok (some d) ∧ d.Spoils fault)
      (load text) := by
  rcases htokens : tokens text with e | ts
  · rw [load, htokens]
    exact .inl ((tokens_fails text).error htokens)
  · have hdocument : document? text = documentOf? ts := by rw [document?, htokens]; rfl
    have hload : load text = valueOfTokens ts := by rw [load, htokens]; rfl
    rw [hload, valueOfTokens, ← hdocument]
    rcases hroot : document? text with e | d?
    · exact .inl ((document?_fails text).error hroot)
    · cases d? with
      | none => trivial
      | some d =>
        refine (value_fails d _).mono (fun _ h => h) fun fault hfault => ?_
        exact hfault.elim (fun h => .inl (.inl h)) fun h => .inr ⟨d, rfl, h⟩

end Yaml

end Scaffold
