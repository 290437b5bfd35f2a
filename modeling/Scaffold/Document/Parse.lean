import Scaffold.Directive.Decode
import Scaffold.Document.Split
import Scaffold.Yaml.Load

/-!
# Reading a document

The chunks of a document pair up: a directive block and the body it is for. All directives are
decoded before anything is done with any of them.
-/

namespace Scaffold

namespace Document

/-- Why a document or one of its directive blocks cannot be used. -/
inductive Failure
  /-- The block is not YAML. -/
  | notYaml
  /-- The block is a value of the given kind instead of a mapping; with the beginning of it. -/
  | notMapping (kind excerpt : Text)
  /-- Keys are missing, unknown or wrongly typed. -/
  | flawed (flaws : List Directive.Flaw)
  /-- The block asks for something impossible. -/
  | refused (reason : Directive.Refusal)
  /-- The last one of the chunks has no body. -/
  | noBody (chunks : Nat)
  /-- A scalar of the block has the look of a value that does not exist. -/
  | unreadable (fault : Yaml.Fault)
  /-- A quantifier of a pattern asks for more turns than can be counted. -/
  | countTooLarge
deriving DecidableEq, Repr

/-- The failure in words, for those that are reported as errors of the document. -/
def Failure.message? : Failure → Option Text
  | notYaml => some (Text.of "Invalid YAML in directive block")
  | notMapping kind excerpt =>
    some (Text.of "Expected a YAML mapping as directive, got " ++ kind ++ ':' :: ' ' ::
      Text.quoted excerpt)
  | flawed _ => some (Text.of "Invalid directive")
  | refused reason => some reason.message
  | noBody chunks =>
    some (Text.of "cannot split document into directive and body: " ++ Text.ofNat chunks ++
      Text.of " chunk(s), the last one has no body")
  | unreadable _ | countTooLarge => none

/-- The failure of a decoding, seen from the document. -/
def Failure.ofDecode : Directive.DecodeError → Failure
  | .refused reason => .refused reason
  | .flawed flaws => .flawed flaws
  | .countTooLarge => .countTooLarge

/-- How many characters of a block that is no mapping are shown. -/
def excerptLength : Nat := 60

/-- The directive that a block of YAML describes. -/
def parseDirective (block : Text) : Except Failure Directive :=
  match Yaml.load block with
  | .error .malformed => .error .notYaml
  | .error fault => .error (.unreadable fault)
  | .ok (.map _ entries) =>
    match Directive.decode entries with
    | .ok d => .ok d
    | .error e => .error (.ofDecode e)
  | .ok v => .error (.notMapping v.kindName ((Text.trim block).take excerptLength))

/-- Chunks in pairs. The number of all chunks is for the failure. -/
def pairsOf (total : Nat) : List Text → Except Failure (List (Directive × Text))
  | [] => .ok []
  | [_] => .error (.noBody total)
  | block :: body :: rest => do
    let directive ← parseDirective (Text.trim block)
    return (directive, Text.trim body) :: (← pairsOf total rest)

/-- The pairs of a document. That a body is missing is found out before any block is read. -/
def parse (s : Text) : Except Failure (List (Directive × Text)) :=
  let cs := chunks s
  if cs.length % 2 = 1 then .error (.noBody cs.length) else pairsOf cs.length cs

end Document

end Scaffold
