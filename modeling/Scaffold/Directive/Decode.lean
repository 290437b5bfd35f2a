import Scaffold.Directive.Basic
import Scaffold.Directive.Flaw
import Scaffold.Pattern.Parser
import Scaffold.Text.Utf8
import Scaffold.Value.Written

/-!
# Decoding directives

From a mapping of values to a directive. A key that has a short and a long name may be given
under either; when both are there the long one is unknown. Keys that are absent have defaults,
apart from the targets.

Keys are checked in the order of their declaration. A pattern is compiled as soon as its turn
comes, and one that cannot be compiled ends the decoding whatever else is wrong. Flaws are
collected, and the number of placements is looked at only when an injection has none.
-/

namespace Scaffold

namespace Directive

/-- A decoded part, or its flaws. -/
abbrev Checked (α : Type) := Except (List Flaw) α

/-- The flaws of a part. -/
def flawsOf {α : Type} : Checked α → List Flaw
  | .ok _ => []
  | .error flaws => flaws

/-- A single flaw right here. -/
def flaw {α : Type} (kind : FlawKind) : Checked α := .error [⟨[], kind⟩]

/-- A part seen from one step further out. -/
def Checked.under {α : Type} (step : Step) : Checked α → Checked α
  | .ok a => .ok a
  | .error flaws => .error (flaws.map (·.under step))

/-! ### Scalars -/

/-- A text. Bytes count as the text they encode. -/
def readText : Value → Checked Text
  | .text s => .ok s
  | .bytes b => match Text.decode? b with
    | some s => .ok s
    | none => flaw .badEncoding
  | _ => flaw .notText

/-- A text or nothing. -/
def readOptionalText : Value → Checked (Option Text)
  | .null => .ok none
  | v => (readText v).map some

/-- Whole numbers with more digits than this are not written out. -/
def mostDigits : Nat := 4300

/-- A payload: numbers and truth values count as the text they are written with, and nothing as
the empty text. A whole number must not be too long for that. -/
def readPayload : Value → Checked Text
  | .null => .ok []
  | .int n => if Decimal.tenTo mostDigits ≤ n.natAbs then flaw .badValue else .ok (Text.ofInt n)
  | v@(.bool _) | v@(.float _) => .ok v.plain
  | v => readText v

/-- The words for true. -/
def trueWords : List String := ["1", "on", "t", "true", "y", "yes"]

/-- The words for false. -/
def falseWords : List String := ["0", "off", "f", "false", "n", "no"]

/-- A truth value spelt out, in any letter case. -/
def readBoolWord (s : Text) : Checked Bool :=
  let word := (s.map Char.toLower)
  if trueWords.any fun w => w.toList = word then .ok true
  else if falseWords.any fun w => w.toList = word then .ok false
  else flaw .unreadableBool

/-- An integer as a truth value. -/
def readBoolInt (n : Int) : Checked Bool :=
  if n = 0 then .ok false else if n = 1 then .ok true else flaw .unreadableBool

/-- Whether a number fits into 64 bits with a sign. -/
def fitsWord (n : Int) : Bool := -9223372036854775808 ≤ n && n ≤ 9223372036854775807

/-- A truth value: one itself, a word for one, or a number that is zero or one. -/
def readBool : Value → Checked Bool
  | .bool b => .ok b
  | .text s => readBoolWord s
  | .bytes b => match Text.decode? b with
    | some s => readBoolWord s
    | none => flaw .unreadableBool
  | .int n => if fitsWord n then readBoolInt n else flaw .notBool
  | .float x => match Decimal.fraction? x with
    | some (num, den) =>
      if num % den = 0 && fitsWord (num / den) then readBoolInt (num / den) else flaw .notBool
    | none => flaw .notBool
  | _ => flaw .notBool

/-- The pattern of a field, if it has one. -/
def readPattern (field : Text) : Value → Except DecodeError (Checked (Option Pattern))
  | .null => .ok (.ok none)
  | .text s => match Pattern.compile s with
    | .ok r => .ok (.ok (some r))
    | .error .malformed => .error (.refused (.patternMalformed field s))
    | .error .countTooLarge => .error .countTooLarge
    | .error .numeralTooLong | .error .modesClash => .ok (flaw .badValue)
  | v => .error (.refused (.patternNotText field v.kindName))

/-! ### Fields of a mapping -/

/-- The names of a field: the one it is reported under, and a longer one. -/
structure Field where
  name : String
  long : Option String

/-- The name a field is given under and its value. -/
def Field.find? (f : Field) (entries : List (Value × Value)) : Option (Text × Value) :=
  match Value.lookup? (.text (Text.of f.name)) entries with
  | some v => some (Text.of f.name, v)
  | none => f.long.bind fun long =>
    (Value.lookup? (.text (Text.of long)) entries).map fun v => (Text.of long, v)

/-- A field that may be absent. -/
def Field.read {α : Type} (f : Field) (entries : List (Value × Value)) (absent : Checked α)
    (read : Value → Checked α) : Checked α :=
  match f.find? entries with
  | some (name, v) => Checked.under (.key name) (read v)
  | none => Checked.under (.key (Text.of f.name)) absent

/-- The flaws of keys that no field accounts for. -/
def unknownKeys (fields : List Field) (entries : List (Value × Value)) : List Flaw :=
  let used := fields.filterMap fun f => (f.find? entries).map (·.1)
  entries.filterMap fun
    | (.text key, _) => if used.contains key then none else some ⟨[.key key], .unknownKey⟩
    | _ => some ⟨[.oddKey], .oddKey⟩

/-! ### Injections -/

/-- The file to patch. -/
def targetField : Field := ⟨"into", some "target_path"⟩

/-- What to put into it. -/
def payloadField : Field := ⟨"content", some "payload"⟩

/-- Whether it goes inside the line. -/
def inlineField : Field := ⟨"inline", none⟩

/-- Whether it goes before everything. -/
def prependField : Field := ⟨"prepend", none⟩

/-- Whether it goes behind everything. -/
def appendField : Field := ⟨"append", none⟩

/-- The field with the pattern that makes an injection unnecessary. -/
def skipIfField : Field := ⟨"skip_if", none⟩

/-- The fields with the pattern of a placement, in the order in which they are declared. -/
def placementFields : List (Field × (Pattern → Placement)) :=
  [(⟨"before", none⟩, .beside .before .first),
   (⟨"before_last", none⟩, .beside .before .last),
   (⟨"before_all", none⟩, .beside .before .all),
   (⟨"after", none⟩, .beside .after .first),
   (⟨"after_last", none⟩, .beside .after .last),
   (⟨"after_all", none⟩, .beside .after .all),
   (⟨"remove_lines", none⟩, .removeLines),
   (⟨"replace", none⟩, .replace),
   (⟨"replace_all", none⟩, .replaceAll)]

/-- All fields of an injection. -/
def injectionFields : List Field :=
  [targetField, payloadField, inlineField, skipIfField, prependField, appendField] ++
    placementFields.map (·.1)

/-- The pattern under a field. -/
def patternUnder (entries : List (Value × Value)) (f : Field) :
    Except DecodeError (Checked (Option Pattern)) :=
  match f.find? entries with
  | some (name, v) => (readPattern name v).map (Checked.under (.key name))
  | none => .ok (.ok none)

/-- The placements that are set, in the order of declaration. -/
def placementsSet (prepend append : Bool)
    (patterns : List ((Pattern → Placement) × Option Pattern)) : List Placement :=
  (if prepend then [.prepend] else []) ++ (if append then [.append] else []) ++
    patterns.filterMap fun (place, r) => r.map place

/-- Patterns that were all found sound. -/
def allSound : List ((Pattern → Placement) × Checked (Option Pattern)) →
    Checked (List ((Pattern → Placement) × Option Pattern))
  | [] => .ok []
  | (place, .ok r) :: rest => (allSound rest).map ((place, r) :: ·)
  | (_, .error flaws) :: rest => .error (flaws ++ flawsOf (allSound rest))

/-- The injection that the entries describe. -/
def decodeInjection (entries : List (Value × Value)) : Except DecodeError Injection := do
  let target := targetField.read entries (flaw .missing) readText
  let payload := payloadField.read entries (.ok []) readPayload
  let inline := inlineField.read entries (.ok false) readBool
  let skipIf ← patternUnder entries skipIfField
  let prepend := prependField.read entries (.ok false) readBool
  let append := appendField.read entries (.ok false) readBool
  let patterns ← placementFields.mapM fun (f, place) => do
    return (place, ← patternUnder entries f)
  let unknown := unknownKeys injectionFields entries
  match target, payload, inline, skipIf, prepend, append, allSound patterns, unknown with
  | .ok target, .ok payload, .ok inline, .ok skipIf, .ok prepend, .ok append, .ok patterns, [] =>
    match placementsSet prepend append patterns with
    | [] => return ⟨target, payload, inline, skipIf, none⟩
    | [placement] => return ⟨target, payload, inline, skipIf, some placement⟩
    | several => throw (.refused (.overloaded target (several.map fun p => Text.of p.key)))
  | _, _, _, _, _, _, checked, _ =>
    throw (.flawed (flawsOf target ++ flawsOf payload ++ flawsOf inline ++ flawsOf skipIf ++
      flawsOf prepend ++ flawsOf append ++ flawsOf checked ++ unknown))

/-! ### Directives -/

/-- The items that a list of injections is given as. -/
def injectionItems : Value → Checked (List Value)
  | .null => .ok []
  | .list items | .tuple items | .set items => .ok items
  | _ => flaw .notList

/-- Injections from the given index on. A flaw does not keep the later ones from being looked
at. -/
def decodeInjections : (index : Nat) → List Value → Except DecodeError (Checked (List Injection))
  | _, [] => .ok (.ok [])
  | i, v :: rest => do
    let first : Checked Injection ← match v with
      | .map _ entries => match decodeInjection entries with
        | .ok j => pure (.ok j)
        | .error (.flawed flaws) => pure (.error flaws)
        | .error e => throw e
      | _ => pure (flaw .notMapping)
    let more ← decodeInjections (i + 1) rest
    match first, more with
    | .ok j, .ok js => return .ok (j :: js)
    | first, more => return .error (flawsOf (Checked.under (.index i) first) ++ flawsOf more)

/-- The file the body goes to. -/
def toField : Field := ⟨"to", some "target_path"⟩

/-- Whether an existing target is left alone. -/
def skipExistsField : Field := ⟨"skip_exists", some "skip_if_exists"⟩

/-- The paths whose existence makes the pair unnecessary. -/
def skipGlobField : Field := ⟨"skip_glob", some "skip_if_glob_matches"⟩

/-- What to tell the user. -/
def messageField : Field := ⟨"message", none⟩

/-- The files to patch afterwards. -/
def injectionsField : Field := ⟨"injections", none⟩

/-- All fields of a directive. -/
def directiveFields : List Field :=
  [toField, skipExistsField, skipGlobField, messageField, injectionsField]

/-- The directive that the entries describe. -/
def decode (entries : List (Value × Value)) : Except DecodeError Directive := do
  let target := toField.read entries (flaw .missing) readText
  let skipIfExists := skipExistsField.read entries (.ok false) readBool
  let skipIfGlob := skipGlobField.read entries (.ok none) readOptionalText
  let message := messageField.read entries (.ok none) readOptionalText
  let injections : Checked (List Injection) ←
    match injectionsField.read entries (.ok []) injectionItems with
    | .ok items => (decodeInjections 0 items).map (Checked.under (.key (Text.of "injections")))
    | .error flaws => pure (.error flaws)
  let unknown := unknownKeys directiveFields entries
  match target, skipIfExists, skipIfGlob, message, injections, unknown with
  | .ok target, .ok skipIfExists, .ok skipIfGlob, .ok message, .ok injections, [] =>
    return ⟨target, skipIfExists, skipIfGlob, message, injections⟩
  | _, _, _, _, _, _ =>
    throw (.flawed (flawsOf target ++ flawsOf skipIfExists ++ flawsOf skipIfGlob ++
      flawsOf message ++ flawsOf injections ++ unknown))

end Directive

end Scaffold
