import Scaffold.Document.Parse
import Scaffold.Json
import Scaffold.Text.Lines

/-!
# Summaries

What a document would do, told without doing it: for people, a few lines for every pair, and
for programs, a list of objects.
-/

namespace Scaffold

namespace Document

/-- What an injection would do. -/
structure InjectionSummary where
  target : Text
  /-- The name of the placement, if there is one. -/
  key : Option Text
  inline : Bool
deriving DecidableEq, Repr

/-- What a pair would do. -/
structure Summary where
  target : Text
  skipIfExists : Bool
  skipIfGlob : Option Text
  message : Option Text
  /-- How many lines the body has. -/
  lines : Nat
  injections : List InjectionSummary
deriving DecidableEq, Repr

/-- What an injection would do. -/
def InjectionSummary.of (j : Injection) : InjectionSummary :=
  ⟨j.target, j.placement.map fun p => Text.of p.key, j.inline⟩

/-- What a pair would do. -/
def Summary.of (d : Directive) (body : Text) : Summary where
  target := d.target
  skipIfExists := d.skipIfExists
  skipIfGlob := d.skipIfGlob
  message := d.message
  lines := (Text.visibleLines body).length
  injections := d.injections.map InjectionSummary.of

/-- What a document would do. -/
def summaries (pairs : List (Directive × Text)) : List Summary :=
  pairs.map fun (d, body) => Summary.of d body

/-! ### For people -/

/-- When a pair is skipped, in words. -/
def Summary.policies (s : Summary) : List Text :=
  (if s.skipIfExists then [Text.of "skip if exists"] else []) ++
  (match s.skipIfGlob with
    | none | some [] => []
    | some pattern => [Text.of "skip if " ++ pattern])

/-- The line for an injection. -/
def InjectionSummary.line (j : InjectionSummary) : Text :=
  Text.of "       ↳ " ++ j.key.getD (Text.of "no-op") ++ Text.of " → " ++ j.target

/-- The lines for a pair. -/
def Summary.report (s : Summary) : List Text :=
  let policies := match s.policies with
    | [] => []
    | ps => ' ' :: '(' :: Text.join [',', ' '] ps ++ [')']
  (Text.of "   • " ++ s.target ++ policies ++ Text.of "  [" ++ Text.ofNat s.lines ++
    Text.of " line(s)]") :: s.injections.map InjectionSummary.line

/-- The lines for a document. -/
def report (ss : List Summary) : List Text :=
  (Text.of "✅ " ++ Text.ofNat ss.length ++ Text.of " directive(s)") :: ss.flatMap Summary.report

/-! ### For programs -/

/-- A text, or nothing. -/
def optional (s : Option Text) : Json :=
  match s with
  | some s => .text s
  | none => .null

/-- The object for an injection. -/
def InjectionSummary.json (j : InjectionSummary) : Json :=
  .object [(Text.of "into", .text j.target), (Text.of "kind", optional j.key),
    (Text.of "inline", .bool j.inline)]

/-- The object for a pair. -/
def Summary.json (s : Summary) : Json :=
  .object [(Text.of "to", .text s.target), (Text.of "skip_exists", .bool s.skipIfExists),
    (Text.of "skip_glob", optional s.skipIfGlob), (Text.of "message", optional s.message),
    (Text.of "lines", .number (Text.ofNat s.lines)),
    (Text.of "injections", .list (s.injections.map InjectionSummary.json))]

end Document

end Scaffold
