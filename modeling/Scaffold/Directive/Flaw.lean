import Scaffold.Text.Quoted

/-!
# What can be wrong with a directive

A *flaw* is a key that is missing, unknown or wrongly typed; all flaws of a directive are
reported together, each with the way to it. A *refusal* ends the decoding at once: a pattern
that cannot be used, or more than one placement.
-/

namespace Scaffold

namespace Directive

/-- One step on the way to a flaw. -/
inductive Step
  | key (name : Text)
  | index (i : Nat)
  /-- A key that is not a text. -/
  | oddKey
deriving DecidableEq, Repr

/-- The kinds of flaws. -/
inductive FlawKind
  | missing
  | unknownKey
  | oddKey
  | notText
  | badEncoding
  | notBool
  | unreadableBool
  | notList
  | notMapping
  | badValue
deriving DecidableEq, Repr

/-- The word for a kind of flaw. -/
def FlawKind.word : FlawKind → String
  | missing => "missing"
  | unknownKey => "extra_forbidden"
  | oddKey => "invalid_key"
  | notText => "string_type"
  | badEncoding => "string_unicode"
  | notBool => "bool_type"
  | unreadableBool => "bool_parsing"
  | notList => "list_type"
  | notMapping => "model_type"
  | badValue => "value_error"

/-- A flaw and the way to it. -/
structure Flaw where
  path : List Step
  kind : FlawKind
deriving DecidableEq, Repr

/-- The flaw seen from one step further out. -/
def Flaw.under (step : Step) (f : Flaw) : Flaw := { f with path := step :: f.path }

/-- Why a directive describes an impossible request. -/
inductive Refusal
  /-- A pattern that is not a text but the given kind of value. -/
  | patternNotText (field kind : Text)
  /-- A pattern that is not well formed. -/
  | patternMalformed (field source : Text)
  /-- More than one placement in an injection into the target. -/
  | overloaded (target : Text) (keys : List Text)
deriving DecidableEq, Repr

/-- The refusal in words. -/
def Refusal.message : Refusal → Text
  | patternNotText field kind =>
    '\'' :: field ++ Text.of "' must be a regular expression string, got " ++ kind
  | patternMalformed field source =>
    Text.of "Invalid regular expression for '" ++ field ++ Text.of "': " ++ Text.quoted source
  | overloaded target keys =>
    Text.of "Injection into '" ++ target ++ Text.of "' sets more than one placement: " ++
      Text.join [',', ' '] keys

/-- Why decoding fails. -/
inductive DecodeError
  | refused (reason : Refusal)
  | flawed (flaws : List Flaw)
  /-- A quantifier of a pattern asks for more turns than can be counted. -/
  | countTooLarge
deriving DecidableEq, Repr

end Directive

end Scaffold
