import Scaffold.Template.Item.Given
import Scaffold.Template.Item.Percent

/-!
# Texts with fields

Braces mark a field in a text. A field tells which item goes there, and after a colon how it is
aligned, signed, grouped and rounded.
-/

namespace Scaffold

namespace Template

namespace Item

namespace Format

/-- How a field is laid out. -/
structure Spec where
  fill : Char
  /-- One of the four signs for alignment, if given. -/
  align : Option Char
  sign : Char
  alternate : Bool
  width : Nat
  grouping : Option Char
  precision : Option Nat
  kind : Option Char
deriving DecidableEq, Repr

/-- Whether a character tells an alignment. -/
def isAlign (c : Char) : Bool := c = '<' || c = '>' || c = '=' || c = '^'

/-- Take a character if it passes a test. -/
def take? (test : Char → Bool) : Text → Option Char × Text
  | c :: s => if test c then (some c, s) else (none, c :: s)
  | [] => (none, [])

/-- The digits at the start of a text as a number. -/
def takeNumber (s : Text) : Option Nat × Text :=
  let digits := s.takeWhile Char.isDigit
  (if digits.isEmpty then none else some (Decimal.natOf digits), s.drop digits.length)

/-- The layout that a text describes. -/
def Spec.read (s : Text) : Except Fault Spec := do
  let (fill, align, s) := match s with
    | c :: a :: rest =>
      if isAlign a then (c, some a, rest)
      else if isAlign c then (' ', some c, a :: rest)
      else (' ', none, c :: a :: rest)
    | [c] => if isAlign c then (' ', some c, []) else (' ', none, [c])
    | [] => (' ', none, [])
  let (sign, s) := take? (fun c => c = '+' || c = '-' || c = ' ') s
  let (alternate, s) := take? (· == '#') s
  let (zero, s) := take? (· == '0') s
  let fill := if zero.isSome && align.isNone then '0' else fill
  let align := if zero.isSome && align.isNone then some '=' else align
  let (width, s) := takeNumber s
  let (grouping, s) := take? (fun c => c = ',' || c = '_') s
  let (precision, s) ← match s with
    | '.' :: rest => match takeNumber rest with
      | (some n, rest) => pure (some n, rest)
      | (none, _) => throw .badValue
    | s => pure (none, s)
  let (kind, s) := take? (fun _ => true) s
  if !s.isEmpty then throw .badValue
  return ⟨fill, align, sign.getD '-', alternate.isSome, width.getD 0, grouping, precision, kind⟩

/-- A text in its field. -/
def aligned (spec : Spec) (absent : Char) (lead body : Text) : Text :=
  let missing := spec.width - (lead.length + body.length)
  let filler (n : Nat) : Text := List.replicate n spec.fill
  match spec.align.getD absent with
  | '<' => lead ++ body ++ filler missing
  | '^' => filler (missing / 2) ++ lead ++ body ++ filler (missing - missing / 2)
  | '=' => lead ++ filler missing ++ body
  | _ => filler missing ++ lead ++ body

/-- Digits with a separator between groups, the last of which is whole. -/
def grouped (size : Nat) (separator : Char) (digits : Text) : Text :=
  let rec go : Nat → Text → Text
    | _, [] => []
    | n, c :: rest =>
      if n % size = 0 && n ≠ 0 then c :: separator :: go (n - 1) rest else c :: go (n - 1) rest
  go (digits.length - 1) digits

/-- The sign and the mark in front of digits. -/
def leadOf (spec : Spec) (negative : Bool) : Text :=
  if negative then ['-'] else if spec.sign = '-' then [] else [spec.sign]

/-- A text in a field. -/
def ofText (spec : Spec) (s : Text) : Except Fault Text :=
  let spec := if spec.align = some '=' && spec.fill = '0' then { spec with align := some '<' }
    else spec
  if spec.kind.any (· ≠ 's') || spec.sign ≠ '-' || spec.alternate || spec.grouping.isSome ||
    spec.align = some '=' then .error .badValue
  else .ok (aligned spec '<' [] (match spec.precision with
    | some n => s.take n
    | none => s))

/-- A floating-point number in a field. -/
def ofReal (spec : Spec) (x : Float) : Except Fault Text := do
  let negative := Decimal.isNegative x
  let body ← match spec.kind with
    | none => match spec.precision with
      | none => pure ((Decimal.written x).dropWhile (· == '-'))
      | some n => pure (Decimal.formatted .general n spec.alternate x)
    | some 'f' | some 'F' =>
      pure (Decimal.formatted .fixed (spec.precision.getD 6) spec.alternate x)
    | some 'e' => pure (Decimal.formatted .scientific (spec.precision.getD 6) spec.alternate x)
    | some 'g' | some 'n' =>
      pure (Decimal.formatted .general (spec.precision.getD 6) spec.alternate x)
    | some 'E' => pure ((Decimal.formatted .scientific (spec.precision.getD 6) spec.alternate x).map
        Char.toUpper)
    | some 'G' => pure ((Decimal.formatted .general (spec.precision.getD 6) spec.alternate x).map
        Char.toUpper)
    | some '%' =>
      pure (Decimal.formatted .fixed (spec.precision.getD 6) spec.alternate (x * 100) ++ ['%'])
    | some _ => throw .badValue
  let whole := body.takeWhile Char.isDigit
  let body := match spec.grouping with
    | some c => grouped 3 c whole ++ body.drop whole.length
    | none => body
  return aligned spec '>' (leadOf spec negative) body

/-- A whole number in a field. -/
def ofWhole (spec : Spec) (n : Int) : Except Fault Text := do
  let inBase (base size : Nat) (mark : Text) : Except Fault Text :=
    if spec.precision.isSome then .error .badValue
    else
      let digits := Nat.toDigits base n.natAbs
      let digits := match spec.grouping with
        | some c => grouped size c digits
        | none => digits
      .ok (aligned spec '>' (leadOf spec (n < 0) ++ (if spec.alternate then mark else [])) digits)
  match spec.kind with
  | none | some 'd' | some 'n' =>
    let _ ← intText n
    inBase 10 3 []
  | some 'b' => inBase 2 4 ['0', 'b']
  | some 'o' => inBase 8 4 ['0', 'o']
  | some 'x' => inBase 16 4 ['0', 'x']
  | some 'X' => return (← inBase 16 4 ['0', 'X']).map Char.toUpper
  | some 'c' =>
    if 0 ≤ n && n < 0x110000 then return aligned spec '<' [] [Char.ofNat n.toNat]
    else throw .tooLarge
  | some k =>
    if ['e', 'E', 'f', 'F', 'g', 'G', '%'].contains k then ofReal spec (← wholeToReal n)
    else throw .badValue

/-- An item in a field. Items that are neither text nor numbers have no layout. -/
def ofItem (cells : Array Cell) (item : Item) (spec : Text) : Except Fault Text := do
  if spec.isEmpty then item.written cells
  else match item with
    | text _ s => ofText (← Spec.read spec) s
    | bool b => ofWhole (← Spec.read spec) (if b then 1 else 0)
    | int n => ofWhole (← Spec.read spec) n
    | float x => ofReal (← Spec.read spec) x
    | _ => throw .unfit

/-! ### Fields -/

/-- How the items of fields without a name are counted. -/
inductive Counting
  | unknown
  | automatic (next : Nat)
  | manual

/-- What a field is made of: the text up to its closing brace, and the rest. Braces inside are
counted. -/
def fieldText : (depth : Nat) → Text → Option (Text × Text)
  | _, [] => none
  | depth, c :: s =>
    if c = '\x7d' then
      match depth with
      | 0 => some ([], s)
      | depth + 1 => (fieldText depth s).map fun (t, rest) => (c :: t, rest)
    else (fieldText (if c = '\x7b' then depth + 1 else depth) s).map fun (t, rest) => (c :: t, rest)

/-- The item that the first part of a field's name asks for. -/
def firstItem (g : Given) (counting : Counting) (name : Text) :
    Except Fault (Item × Counting) := do
  let at_ (n : Nat) (counting : Counting) : Except Fault (Item × Counting) :=
    match g.positional[n]? with
    | some item => .ok (item, counting)
    | none => .error .noIndex
  if name.isEmpty then
    match counting with
    | .unknown => at_ 0 (.automatic 1)
    | .automatic n => at_ n (.automatic (n + 1))
    | .manual => throw .badValue
  else if name.all Char.isDigit then
    match counting with
    | .automatic _ => throw .badValue
    | _ => at_ (Decimal.natOf name) .manual
  else match g.named.lookup name with
    | some item => return (item, counting)
    | none => throw .noKey

/-- The item that indices in square brackets lead to. -/
def follow (cells : Array Cell) : (fuel : Nat) → Item → Text → Except Fault Item
  | _, item, [] => .ok item
  | 0, _, _ => .error .badValue
  | fuel + 1, item, '[' :: s =>
    let key := s.takeWhile (· ≠ ']')
    let rest := s.drop (key.length + 1)
    let index : Item := if key.all Char.isDigit && !key.isEmpty then nat (Decimal.natOf key)
      else plain key
    match item.at? cells index with
    | .ok (some found) => follow cells fuel found rest
    | .ok none => .error (match index, item with
      | .int _, .ref a => if cells[a]? matches some (.map _) then .noKey else .noIndex
      | .int _, _ => .noIndex
      | _, .ref a => if cells[a]? matches some (.map _) then .noKey else .unfit
      | _, _ => .unfit)
    | .error f => .error f
  | _, _, _ => .error .noMember

/-- The text of an item under a conversion. -/
def converted (cells : Array Cell) (conversion : Option Char) (item : Item) :
    Except Fault Item :=
  match conversion with
  | none => .ok item
  | some 's' => (item.written cells).map plain
  | some 'r' => (item.shown cells).map plain
  | some 'a' => (item.shown cells).map fun s => plain (Percent.inAscii s)
  | some _ => .error .badValue

/-- A field split into its name, its conversion and its layout. -/
def splitField (s : Text) : Except Fault (Text × Option Char × Text) :=
  let name := s.takeWhile fun c => c ≠ '!' && c ≠ ':'
  match s.drop name.length with
  | [] => .ok (name, none, [])
  | ':' :: spec => .ok (name, none, spec)
  | _ :: c :: [] => .ok (name, some c, [])
  | _ :: c :: ':' :: spec => .ok (name, some c, spec)
  | _ => .error .badValue

/-- A text with its fields filled. Fields may stand in the layout of fields, one level deep. -/
def fill (cells : Array Cell) (escapes : Bool) (g : Given) :
    (fuel : Nat) → Counting → Text → Except Fault (Text × Counting)
  | _, counting, [] => .ok ([], counting)
  | 0, _, _ => .error .badValue
  | fuel + 1, counting, '\x7b' :: '\x7b' :: s => do
    let (t, counting) ← fill cells escapes g fuel counting s
    return ('\x7b' :: t, counting)
  | fuel + 1, counting, '\x7d' :: '\x7d' :: s => do
    let (t, counting) ← fill cells escapes g fuel counting s
    return ('\x7d' :: t, counting)
  | fuel + 1, counting, c :: s => do
    if c = '\x7d' then throw .badValue
    else if c = '\x7b' then
      match fieldText 0 s with
      | none => throw .badValue
      | some (field, rest) =>
        let (name, conversion, spec) ← splitField field
        let first := name.takeWhile fun c => c ≠ '.' && c ≠ '['
        let (item, counting) ← firstItem g counting first
        let item ← follow cells name.length item (name.drop first.length)
        let item ← converted cells conversion item
        let (spec, counting) ←
          if spec.contains '\x7b' then fill cells false g fuel counting spec
          else pure (spec, counting)
        let put ← if escapes then match item with
            | text true s => pure s
            | item => (ofItem cells item spec).map escaped
          else ofItem cells item spec
        let (more, counting) ← fill cells escapes g fuel counting rest
        return (put ++ more, counting)
    else
      let (more, counting) ← fill cells escapes g fuel counting s
      return (c :: more, counting)

end Format

/-- A text with its fields filled. -/
def format (cells : Array Cell) (escapes : Bool) (s : Text) (g : Given) : Except Fault Text :=
  (Format.fill cells escapes g (s.length + 1) .unknown s).map (·.1)

end Item

end Template

end Scaffold
