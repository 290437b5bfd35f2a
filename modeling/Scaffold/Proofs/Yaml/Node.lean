import Scaffold.Proofs.Yaml.Layout
import Scaffold.Yaml.Node.Basic

/-!
# Nodes that cannot be read

To put nodes together from tokens fails in one way only, as malformed. The readers of collections
call the one of nodes and each other, so what is said of them is said of all together, by induction
on the number of turns they are given.

## Main results

* `Yaml.document?_fails` — the faults of the document of a text
-/

namespace Scaffold

namespace Yaml

set_option synthInstance.maxSize 10000

namespace Composer

/-- A step of reading nodes that fails only where the tokens are malformed. -/
abbrev Composes {α : Type} (m : Composer α) : Prop :=
  Keeps (fun _ : Composition => True) (fun fault : Fault => fault = .malformed) m

variable {α β : Type}

instance fail_composes : Composes (fail : Composer α) := Keeps.throw rfl

instance (priority := 2000) fail_bind_composes (f : α → Composer β) : Composes (fail >>= f) :=
  fail_composes (α := β)

instance peek_composes : Composes peek := by
  unfold peek
  infer_instance

instance skip_composes : Composes skip := Keeps.modify fun _ _ => trivial

instance accept_composes (t : Token) : Composes (accept t) := by
  unfold accept
  infer_instance

instance sees_composes (ts : List Token) : Composes (sees ts) := by
  unfold sees
  infer_instance

instance number_composes : Composes number := ⟨fun _ _ => trivial⟩

instance anchor_composes (name : Option Text) (n : Nat) : Composes (anchor name n) := by
  unfold anchor
  split <;> infer_instance

instance keep_composes (name : Option Text) (n : Nat) (node : Node) :
    Composes (keep name n node) := by
  have hkept : Composes (modify fun c => { c with anchored := (n, node) :: c.anchored }) :=
    Keeps.modify fun _ _ => trivial
  unfold keep
  infer_instance

instance tagName_composes (t : WrittenTag) : Composes (tagName t) := by
  unfold tagName
  split
  · infer_instance
  · refine Keeps.get.seq fun c => ?_
    split <;> infer_instance

instance properties_composes : Composes properties := by
  unfold properties
  refine peek_composes.seq fun t => ?_
  split
  · refine skip_composes.seq fun _ => peek_composes.seq fun t => ?_
    split <;> infer_instance
  · refine skip_composes.seq fun _ => peek_composes.seq fun t => ?_
    split <;> infer_instance
  · infer_instance

/-- What `node` and the readers of collections that it calls have in common, for a number of
turns. -/
structure AllCompose (fuel : Nat) : Prop where
  node : ∀ block indentless, Composes (node fuel block indentless)
  nodeUnless : ∀ stops block indentless, Composes (nodeUnless fuel stops block indentless)
  blockItems : Composes (blockItems fuel)
  entries : Composes (entries fuel)
  blockPairs : Composes (blockPairs fuel)
  flowItems : ∀ first, Composes (flowItems fuel first)
  flowPairs : ∀ first, Composes (flowPairs fuel first)

theorem allCompose (fuel : Nat) : AllCompose fuel := by
  induction fuel with
  | zero =>
    exact ⟨fun _ _ => fail_composes, fun _ _ _ => fail_composes, fail_composes, fail_composes,
      fail_composes, fun _ => fail_composes, fun _ => fail_composes⟩
  | succ fuel ih =>
    obtain ⟨hnode, hunless, hitems, hentries, hpairs, hflowItems, hflowPairs⟩ := ih
    refine ⟨fun block indentless => ?_, ?_, ?_, ?_, ?_, ?_, ?_⟩
    · unfold Composer.node
      refine peek_composes.seq fun t => ?_
      split
      · refine skip_composes.seq fun _ => Keeps.get.seq fun c => ?_
        split <;> infer_instance
      · refine properties_composes.seq fun p => number_composes.seq fun n => ?_
        refine peek_composes.seq fun t => ?_
        split <;> infer_instance
    all_goals intros
    · unfold Composer.nodeUnless
      infer_instance
    · unfold Composer.blockItems
      infer_instance
    · unfold Composer.entries
      infer_instance
    · unfold Composer.blockPairs
      infer_instance
    · unfold Composer.flowItems
      infer_instance
    · unfold Composer.flowPairs
      infer_instance

instance node_composes (fuel : Nat) (block indentless : Bool) :
    Composes (node fuel block indentless) :=
  (allCompose fuel).node block indentless

instance settings_composes (fuel : Nat) (versioned : Bool) (handles : List (Text × Text)) :
    Composes (settings fuel versioned handles) := by
  induction fuel generalizing versioned handles with
  | zero => exact fail_composes
  | succ fuel ih =>
    unfold settings
    refine peek_composes.seq fun t => ?_
    split
    · refine skip_composes.seq fun _ => ?_
      split <;> infer_instance
    · exact Keeps.modify fun _ _ => trivial

instance documentEnds_composes (fuel : Nat) : Composes (documentEnds fuel) := by
  induction fuel with
  | zero => exact Keeps.pure _
  | succ fuel ih =>
    unfold documentEnds
    infer_instance

instance marked_composes (fuel : Nat) : Composes (marked fuel) := by
  unfold marked
  refine (settings_composes _ _ _).seq fun _ => (accept_composes _).seq fun accepted => ?_
  dsimp only
  split
  · infer_instance
  · refine peek_composes.seq fun t => ?_
    split <;> infer_instance

instance single_composes (fuel : Nat) : Composes (single fuel) := by
  unfold single
  refine peek_composes.seq fun t => ?_
  dsimp only
  split <;> infer_instance

end Composer

/-- **The document of a text** is missing only where it is malformed, or where an escape is the
number of no character. -/
theorem document?_fails (text : Text) : FailsAs (IsOfText text) (document? text) := by
  refine (tokens_fails text).bind fun ts _ => ?_
  unfold documentOf?
  have hsingle := (Composer.single_composes (4 * ts.length + 4)).gives
    ⟨ts, commonHandles, [], [], 0⟩ trivial
  exact (hsingle.mono (fun _ h => h) fun _ h => Or.inl h).bind fun _ _ => trivial

end Yaml

end Scaffold
