import Scaffold.Proofs.Document.LineEnds
import Scaffold.Proofs.Generator
import Scaffold.Proofs.Template.Plain

/-!
# Documents as templates

A document in which no tag begins is a template that renders to itself, up to its line ends. Those
are unified when a template is read and again when a document is, and once they are unified nothing
is left to do. So generating from such a document is running it.

## Main results

* `Generator.generate_of_isPlain` — generating from a document is running it
-/

namespace Scaffold

namespace Generator

variable {σ : Type} [Storage σ] {source : Text}

/-- **Generating from a document is running it**, when no tag begins in it: the same files, writes,
events and log, and the same result or the same failure, whatever the variables are. -/
theorem generate_of_isPlain (h : Template.IsPlain source) (g : Generator σ)
    (vars : List (Text × Value)) :
    let generated := g.generate source (vars.map fun x => (.text x.1, x.2))
    let ran := g.runDocument source
    generated.1 = ran.1.mapError .run ∧ generated.2.progress = ran.2.progress := by
  intro generated ran
  have hdocument : Run.document (σ := σ) g.workingDir (Text.unifyNewlines source) =
      Run.document g.workingDir source := by
    funext p
    rw [Run.document, Run.document, Document.parse_unifyNewlines]
  obtain ⟨hanswer, hprogress⟩ := g.generate_eq_runRendered source
    (vars.map fun x => (.text x.1, x.2))
  rw [Template.Registry.renderSource_of_isPlain h, runRendered_ok, hdocument] at hanswer hprogress
  exact ⟨hanswer, hprogress⟩

/-- A document with line ends of all three kinds, and with braces and signs that begin no tag. -/
def mixedDocument : { source : Text // Template.IsPlain source } :=
  ⟨Text.of "---\r\nto: a\rmessage: 100%\r---\n\x7b %\x7d\r\n%\x7d #\x7d", by decide +kernel⟩

theorem generate_of_isPlain_mixed :
    let g := ofStore (⟨[(Text.of "d/a", [])], [], []⟩ : Memory) (some (Path.ofText ['d']))
    let generated := g.generate mixedDocument [(.text ['n'], .int 1)]
    Template.IsPlain mixedDocument.val ∧
      generated.1 = .ok (.generated (some (Text.of "100%"))) ∧
      generated.2.progress.store.writes = [(Text.of "d/a", Text.of "\x7b %\x7d\n%\x7d #\x7d")] := by
  intro g generated
  have hran : (g.runDocument mixedDocument).1 = .ok (.generated (some (Text.of "100%"))) ∧
      (g.runDocument mixedDocument).2.progress.store.writes =
        [(Text.of "d/a", Text.of "\x7b %\x7d\n%\x7d #\x7d")] := by
    decide +kernel
  obtain ⟨hanswer, hprogress⟩ := generate_of_isPlain mixedDocument.property g [(['n'], .int 1)]
  have hresult : generated.1 = (g.runDocument mixedDocument).1.mapError .run := hanswer
  have hstate : generated.2.progress = (g.runDocument mixedDocument).2.progress := hprogress
  rw [hresult, hstate, hran.1, hran.2]
  exact ⟨mixedDocument.property, rfl, rfl⟩

end Generator

end Scaffold
