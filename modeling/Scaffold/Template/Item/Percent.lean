import Scaffold.Decimal.Fixed
import Scaffold.Template.Item.Sequence

/-!
# Texts with places to fill

A percent sign, some options and a letter mark a place in a text where an item goes. The letter
tells how the item is written.
-/

namespace Scaffold

namespace Template

namespace Item

namespace Percent

/-- The options of a place. -/
structure Options where
  toLeft : Bool
  plus : Bool
  blank : Bool
  alternate : Bool
  zeros : Bool
  width : Nat
  precision : Option Nat
deriving DecidableEq, Repr

/-- No options. -/
def Options.none : Options := ⟨false, false, false, false, false, 0, .none⟩

/-- The flags that a text begins with, and the rest. -/
def flags (o : Options) : Text → Options × Text
  | '-' :: s => flags { o with toLeft := true } s
  | '+' :: s => flags { o with plus := true } s
  | ' ' :: s => flags { o with blank := true } s
  | '#' :: s => flags { o with alternate := true } s
  | '0' :: s => flags { o with zeros := true } s
  | s => (o, s)

/-- The items that are still to be put into a text. -/
structure Supply where
  rest : List Item
  /-- Items by name, for a text that asks for them so. -/
  named : Option Item

/-- The next item. -/
def Supply.next (s : Supply) : Except Fault (Item × Supply) :=
  match s.rest with
  | item :: rest => .ok (item, { s with rest })
  | [] => .error .unfit

/-- A number of a place, or a star for one that is supplied. -/
def numeral (supply : Supply) (s : Text) : Except Fault (Option Int × Supply × Text) :=
  match s with
  | '*' :: rest => do
    match ← supply.next with
    | (.int n, supply) => return (some n, supply, rest)
    | (.bool b, supply) => return (some (if b then 1 else 0), supply, rest)
    | _ => throw .unfit
  | s =>
    let digits := s.takeWhile Char.isDigit
    .ok (if digits.isEmpty then .none else some (Decimal.natOf digits), supply,
      s.drop digits.length)

/-- Fill a text up to the width. -/
def pad (o : Options) (s : Text) : Text :=
  let blanks := List.replicate (o.width - s.length) ' '
  if o.toLeft then s ++ blanks else blanks ++ s

/-- Put a sign, a mark and digits together and fill them up to the width. -/
def padNumber (o : Options) (negative : Bool) (mark digits : Text) : Text :=
  let sign : Text := if negative then ['-'] else if o.plus then ['+'] else if o.blank then [' ']
    else []
  if o.zeros && !o.toLeft then
    let missing := o.width - (sign.length + mark.length + digits.length)
    sign ++ mark ++ List.replicate missing '0' ++ digits
  else pad o (sign ++ mark ++ digits)

/-- A whole number for a letter. -/
def wholeFor (letter : Char) : Item → Except Fault Int
  | .bool b => .ok (if b then 1 else 0)
  | .int n => .ok n
  | .float x => if letter = 'd' then truncate x else .error .unfit
  | .undefined _ => .error .undefined
  | _ => .error .unfit

/-- A number in a base with at least as many digits as the precision tells. -/
def wholeText (o : Options) (base : Nat) (mark : Text) (n : Int) : Text :=
  let digits := Nat.toDigits base n.natAbs
  let digits := List.replicate (o.precision.getD 0 - digits.length) '0' ++ digits
  padNumber o (n < 0) (if o.alternate then mark else []) digits

/-- A floating-point number in a form. -/
def realText (o : Options) (form : Decimal.Form) (upper : Bool) (item : Item) :
    Except Fault Text := do
  let x ← match item.number? with
    | some n => n.toReal
    | none => if item.isUndefined then throw .undefined else throw .unfit
  let digits := Decimal.formatted form (o.precision.getD 6) o.alternate x
  let digits := if upper then digits.map Char.toUpper else digits
  let o := if x.isFinite then o else { o with zeros := false }
  return padNumber o (Decimal.isNegative x) [] digits

/-- A text in ASCII, with everything else escaped. -/
def inAscii (s : Text) : Text :=
  s.flatMap fun c =>
    let n := c.toNat
    if n < 0x80 then [c]
    else if n < 0x100 then '\\' :: 'x' :: Text.hexDigits 2 n
    else if n < 0x10000 then '\\' :: 'u' :: Text.hexDigits 4 n
    else '\\' :: 'U' :: Text.hexDigits 8 n

/-- An item as a letter asks for it. -/
def convert (cells : Array Cell) (o : Options) (letter : Char) (item : Item) :
    Except Fault Text := do
  let cut (s : Text) : Text := pad o (match o.precision with
    | some n => s.take n
    | .none => s)
  match letter with
  | 's' => return cut (← item.written cells)
  | 'r' => return cut (← item.shown cells)
  | 'a' => return cut (inAscii (← item.shown cells))
  | 'd' | 'i' | 'u' =>
    let n ← wholeFor 'd' item
    let _ ← intText n
    return wholeText o 10 [] n
  | 'o' => return wholeText o 8 ['0', 'o'] (← wholeFor letter item)
  | 'x' => return wholeText o 16 ['0', 'x'] (← wholeFor letter item)
  | 'X' => return (wholeText o 16 ['0', 'x'] (← wholeFor letter item)).map Char.toUpper
  | 'e' => realText o .scientific false item
  | 'E' => realText o .scientific true item
  | 'f' => realText o .fixed false item
  | 'F' => realText o .fixed true item
  | 'g' => realText o .general false item
  | 'G' => realText o .general true item
  | 'c' => match item with
    | .text _ [c] => return pad o [c]
    | .int n =>
      if 0 ≤ n && n < 0x110000 then return pad o [Char.ofNat n.toNat] else throw .tooLarge
    | _ => throw .unfit
  | _ => throw .badValue

/-- The name of a place in round brackets, which may hold brackets itself, and the rest. -/
def placeName : (depth : Nat) → Text → Option (Text × Text)
  | _, [] => none
  | depth, c :: s =>
    if c = ')' then
      match depth with
      | 0 => some ([], s)
      | depth + 1 => (placeName depth s).map fun (name, rest) => (c :: name, rest)
    else (placeName (if c = '(' then depth + 1 else depth) s).map
      fun (name, rest) => (c :: name, rest)

/-- What is put into one place, what is left to be supplied, and the rest of the text. -/
def place (cells : Array Cell) (supply : Supply) (s : Text) :
    Except Fault (Text × Supply × Text) := do
  let (supply, s) ← match s with
    | '(' :: rest => match supply.named with
      | none => throw .unfit
      | some whole => match placeName 0 rest with
        | none => throw .badValue
        | some (name, rest) => match ← whole.at? cells (.plain name) with
          | some item => pure (({ supply with rest := [item] } : Supply), rest)
          | none => throw (match whole with
            | .ref a => if cells[a]? matches some (.map _) then .noKey else .unfit
            | _ => .unfit)
    | s => pure (supply, s)
  let (o, s) := flags Options.none s
  let (width, supply, s) ← numeral supply s
  let width := width.getD 0
  let o := { o with width := width.natAbs, toLeft := o.toLeft || width < 0 }
  let (precision, supply, s) ← match s with
    | '.' :: rest => do
      let (n, supply, rest) ← numeral supply rest
      pure (some (n.getD 0).toNat, supply, rest)
    | s => pure (none, supply, s)
  let o := { o with precision }
  match s.dropWhile fun c => c = 'h' || c = 'l' || c = 'L' with
  | [] => throw .badValue
  | '%' :: rest => return (['%'], supply, rest)
  | letter :: rest =>
    let (item, supply) ← supply.next
    return (← convert cells o letter item, supply, rest)

/-- A text with all its places filled. -/
def fill (cells : Array Cell) : (fuel : Nat) → Supply → Text → Except Fault (Text × Supply)
  | 0, supply, _ => .ok ([], supply)
  | _, supply, [] => .ok ([], supply)
  | fuel + 1, supply, c :: s => do
    if c = '%' then
      let (put, supply, rest) ← place cells supply s
      let (more, supply) ← fill cells fuel supply rest
      return (put ++ more, supply)
    else
      let (more, supply) ← fill cells fuel supply s
      return (c :: more, supply)

end Percent

/-- A text with its places filled from an item: from the items of a tuple, from the entries of a
mapping, or from the item itself. Items of a tuple may not be left over. -/
def percent (cells : Array Cell) (s : Text) (item : Item) : Except Fault Text := do
  let supply : Percent.Supply := match item with
    | tuple _ items => ⟨items, none⟩
    | ref a => match cells[a]? with
      | some (.map _) | some (.list _) => ⟨[item], some item⟩
      | _ => ⟨[item], none⟩
    | range .. => ⟨[item], some item⟩
    | item => ⟨[item], none⟩
  let (put, left) ← Percent.fill cells (s.length + 1) supply s
  if supply.named.isNone && !left.rest.isEmpty then throw .unfit
  return put

end Item

end Template

end Scaffold
