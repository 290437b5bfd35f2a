import Scaffold.Pattern.Syntax

/-!
# Matching

A pattern is run at a place in a text together with what has to match after it. The first way
of matching that lets the rest succeed is the answer, and the order in which ways are tried is
the meaning of greed, laziness and alternatives.

## Implementation notes

A place is a pair of lists, what was read (nearest character first) and what is to come. A
matcher takes the place and the continuation, so that backtracking is the `none` branch of a
plain function and the tree is walked by structural recursion.

A quantifier stops as soon as a turn took nothing. That bounds the number of its turns by the
number of characters left, and that number is what its recursion runs on.
-/

namespace Scaffold

namespace Pattern

/-- A place in a text, with what the groups captured on the way there. The latest capture of a
group comes first. -/
structure Place where
  before : Text
  after : Text
  index : Nat
  captures : List (Nat × Text)
deriving DecidableEq, Repr

/-- A way of matching from a place on, given what has to match afterwards. -/
abbrev Matcher := Place → (Place → Option Place) → Option Place

namespace Place

/-- The beginning of a text. -/
def start (s : Text) : Place := ⟨[], s, 0, []⟩

/-- One character further. -/
def next? : Place → Option (Char × Place)
  | ⟨before, c :: after, index, captures⟩ => some (c, ⟨c :: before, after, index + 1, captures⟩)
  | ⟨_, [], _, _⟩ => none

/-- `n` characters back, if there are so many. -/
def back? : Nat → Place → Option Place
  | 0, p => some p
  | n + 1, ⟨c :: before, after, index, captures⟩ =>
    back? n ⟨before, c :: after, index - 1, captures⟩
  | _ + 1, ⟨[], _, _, _⟩ => none

/-- What the group captured last. -/
def captured? (p : Place) (number : Nat) : Option Text := p.captures.lookup number

/-- The place with what was read since `since` captured by the group. -/
def capture (p since : Place) (number : Nat) : Place :=
  { p with captures := (number, (p.before.take (p.index - since.index)).reverse) :: p.captures }

end Place

/-! ### Characters -/

/-- Whether a character belongs to a class. -/
def Category.holds (ascii : Bool) (c : Char) : Category → Bool
  | digit => if ascii then c.isDigit else Text.isDecimal c
  | blank => if ascii then c == ' ' || (9 ≤ c.toNat && c.toNat ≤ 13) else Text.isBlank c
  | word => if ascii then c.isAlphanum || c == '_' else Text.isWord c

/-- The small letter of an ASCII capital. -/
def asciiLower (n : Nat) : Nat := if 65 ≤ n && n ≤ 90 then n + 32 else n

/-- Whether two code points are the same under the modes. -/
def Modes.sameCode (m : Modes) (a b : Nat) : Bool :=
  if !m.ignoreCase then a == b
  else if m.ascii then asciiLower a == asciiLower b
  else Text.sameWhenFolded a b

/-- Whether a character belongs to one member of a set under the modes. A range that ignores
case holds a character if it holds any character that differs from it in case only. -/
def SetItem.holds (m : Modes) (c : Char) : SetItem → Bool
  | code n => m.sameCode n c.toNat
  | range low high =>
    let inside (n : Nat) : Bool := low ≤ n && n ≤ high
    if !m.ignoreCase then inside c.toNat
    else if m.ascii then
      let small := asciiLower c.toNat
      inside small || (97 ≤ small && small ≤ 122 && inside (small - 32))
    else (Text.foldClass (Text.lowerCode c.toNat)).any fun n => (Text.lowerSources n).any fun k =>
      inside k && Text.lowerCode k == n
  | category kind negated => kind.holds m.ascii c != negated

/-- Whether a character belongs to a set. -/
def inSet (m : Modes) (negated : Bool) (items : List SetItem) (c : Char) : Bool :=
  items.any (·.holds m c) != negated

/-- One character that passes the test. -/
def one (test : Char → Bool) : Matcher := fun p k =>
  match p.next? with
  | some (c, q) => if test c then k q else none
  | none => none

/-- The text of a capture over again. -/
def again (m : Modes) : Text → Matcher
  | [], p, k => k p
  | d :: rest, p, k =>
    match p.next? with
    | some (c, q) =>
      if (if m.ignoreCase then
            if m.ascii then asciiLower c.toNat == asciiLower d.toNat
            else Text.lowerCode c.toNat == Text.lowerCode d.toNat
          else c == d) then again m rest q k else none
    | none => none

/-! ### Anchors -/

/-- Whether the character next to a place, if there is one, is part of a word. -/
def touchesWord (m : Modes) : Text → Bool
  | c :: _ => Category.holds m.ascii c .word
  | [] => false

/-- Whether an anchor holds at a place. Nothing is a word edge in an empty text, and nothing is
the opposite of one. -/
def Anchor.holds (m : Modes) (p : Place) : Anchor → Bool
  | lineStart => match p.before with
    | [] => true
    | c :: _ => m.multiline && c == '\n'
  | lineEnd => match p.after with
    | [] => true
    | c :: rest => c == '\n' && (m.multiline || rest.isEmpty)
  | textStart => p.before.isEmpty
  | textEnd => p.after.isEmpty
  | wordEdge =>
    !(p.before.isEmpty && p.after.isEmpty) && touchesWord m p.before != touchesWord m p.after
  | notWordEdge =>
    !(p.before.isEmpty && p.after.isEmpty) && touchesWord m p.before == touchesWord m p.after

/-! ### Quantifiers -/

/-- The matcher with no second thoughts: only its first way counts. -/
def firstWay (body : Matcher) : Matcher := fun p k => (body p some).bind k

/-- Exactly `n` turns. -/
def turns (body : Matcher) : Nat → Matcher
  | 0, p, k => k p
  | n + 1, p, k => body p fun q => turns body n q k

/-- Up to `limit` further turns, as many as possible. `last` is where the turn before began:
another one is tried only if that turn moved on. -/
def greedyTurns (body : Matcher) : (limit : Nat) → (last : Option Nat) → Matcher
  | 0, _, p, k => k p
  | n + 1, last, p, k =>
    if last = some p.index then k p
    else match body p fun q => greedyTurns body n (some p.index) q k with
      | some r => some r
      | none => k p

/-- Up to `limit` further turns, as few as possible. -/
def lazyTurns (body : Matcher) : (limit : Nat) → (last : Option Nat) → Matcher
  | 0, _, p, k => k p
  | n + 1, last, p, k =>
    match k p with
    | some r => some r
    | none =>
      if last = some p.index then none else body p fun q => lazyTurns body n (some p.index) q k

/-- Between `least` and `most` turns. Without a bound the characters left bound the turns. -/
def quantified (least : Nat) (most : Option Nat) (appetite : Appetite) (body : Matcher) : Matcher :=
  fun p k =>
    let limit (q : Place) : Nat :=
      match most with
      | some m => m - least
      | none => q.after.length + 2
    match appetite with
    | .greedy => turns body least p fun q => greedyTurns body (limit q) none q k
    | .lazy => turns body least p fun q => lazyTurns body (limit q) none q k
    | .possessive =>
      firstWay (fun p k => turns (firstWay body) least p fun q =>
        greedyTurns (firstWay body) (limit q) none q k) p k

/-! ### The tree -/

/-- The matcher of a pattern under the modes. -/
def Node.run : Modes → Node → Matcher
  | _, empty, p, k => k p
  | m, code n, p, k => one (fun c => m.sameCode n c.toNat) p k
  | m, any, p, k => one (fun c => m.dotAll || c != '\n') p k
  | m, set negated items, p, k => one (inSet m negated items) p k
  | m, anchor place, p, k => if place.holds m p then k p else none
  | m, seq a b, p, k => a.run m p fun q => b.run m q k
  | m, either a b, p, k =>
    match a.run m p k with
    | some r => some r
    | none => b.run m p k
  | m, group number body, p, k => body.run m p fun q => k (q.capture p number)
  | m, modes added dropped body, p, k => body.run (m.within added dropped) p k
  | m, same number _, p, k =>
    match p.captured? number with
    | some s => again m s p k
    | none => none
  | m, branch number present absent, p, k =>
    match p.captured? number with
    | some _ => present.run m p k
    | none => absent.run m p k
  | m, times least most appetite body, p, k => quantified least most appetite (body.run m) p k
  | m, ahead negated body, p, k =>
    match body.run m p some, negated with
    | some q, false => k { p with captures := q.captures }
    | none, true => k p
    | _, _ => none
  | m, behind negated w body, p, k =>
    match (p.back? w.least).bind fun q => body.run m q some, negated with
    | some q, false => k { p with captures := q.captures }
    | none, true => k p
    | _, _ => none
  | m, atomic body, p, k => firstWay (body.run m) p k

end Pattern

end Scaffold
