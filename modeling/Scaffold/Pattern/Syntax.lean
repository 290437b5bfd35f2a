import Scaffold.Text.Basic
import Scaffold.Text.Case
import Scaffold.Text.Letter

/-!
# Patterns

The syntax tree of a regular expression and the modes it is read under.

## Implementation notes

Sequences and alternatives are binary, so that every function on patterns is plain structural
recursion. Modes stay in the tree where a group changes them and are handed down by whatever
walks it; the leaves do not carry them.

Literals are code points and not characters: an escape may name a surrogate, which is a
pattern that no text matches.
-/

namespace Scaffold

namespace Pattern

/-- The modes that inline flags switch. `plain` bars every quantifier. -/
structure Modes where
  ignoreCase : Bool
  multiline : Bool
  dotAll : Bool
  spaced : Bool
  ascii : Bool
  unicode : Bool
  plain : Bool
deriving DecidableEq, Repr

namespace Modes

/-- No mode switched on. -/
def none : Modes := ⟨false, false, false, false, false, false, false⟩

/-- The modes on either side. -/
def union (a b : Modes) : Modes :=
  ⟨a.ignoreCase || b.ignoreCase, a.multiline || b.multiline, a.dotAll || b.dotAll,
    a.spaced || b.spaced, a.ascii || b.ascii, a.unicode || b.unicode, a.plain || b.plain⟩

/-- The modes of `a` that are not modes of `b`. -/
def without (a b : Modes) : Modes :=
  ⟨a.ignoreCase && !b.ignoreCase, a.multiline && !b.multiline, a.dotAll && !b.dotAll,
    a.spaced && !b.spaced, a.ascii && !b.ascii, a.unicode && !b.unicode, a.plain && !b.plain⟩

/-- The modes inside a group that adds and drops some. A group that names a character set
replaces the outer one. -/
def within (outer added dropped : Modes) : Modes :=
  let base := if added.ascii || added.unicode then { outer with ascii := false, unicode := false }
    else outer
  (base.union added).without dropped

end Modes

/-- The classes of characters that have an escape. -/
inductive Category
  | digit
  | blank
  | word
deriving DecidableEq, Repr

/-- One member of a character set. -/
inductive SetItem
  | code (n : Nat)
  | range (low high : Nat)
  | category (kind : Category) (negated : Bool)
deriving DecidableEq, Repr

/-- Places in a text that match without consuming anything. -/
inductive Anchor
  | lineStart
  | lineEnd
  | textStart
  | textEnd
  | wordEdge
  | notWordEdge
deriving DecidableEq, Repr

/-- How eagerly a quantifier takes another turn. -/
inductive Appetite
  | greedy
  | lazy
  | possessive
deriving DecidableEq, Repr

/-- How many characters a pattern can take: at least `least`, and at most `most` when there
is a bound. -/
structure Width where
  least : Nat
  most : Option Nat
deriving DecidableEq, Repr

/-- A pattern. -/
inductive Node
  | empty
  | code (n : Nat)
  | any
  | set (negated : Bool) (items : List SetItem)
  | anchor (place : Anchor)
  | seq (first second : Node)
  | either (first second : Node)
  | group (number : Nat) (body : Node)
  | modes (added dropped : Modes) (body : Node)
  | same (number : Nat) (width : Width)
  | branch (number : Nat) (present absent : Node)
  | times (least : Nat) (most : Option Nat) (appetite : Appetite) (body : Node)
  | ahead (negated : Bool) (body : Node)
  | behind (negated : Bool) (width : Width) (body : Node)
  | atomic (body : Node)
deriving DecidableEq, Repr

namespace Width

/-- Takes nothing. -/
def zero : Width := ⟨0, some 0⟩

/-- Takes one character. -/
def one : Width := ⟨1, some 1⟩

/-- One after the other. -/
def add (a b : Width) : Width :=
  ⟨a.least + b.least, do return (← a.most) + (← b.most)⟩

/-- Either of the two. -/
def join (a b : Width) : Width :=
  ⟨min a.least b.least, do return max (← a.most) (← b.most)⟩

/-- Repeated between `least` and `most` times. Nothing repeated without bound is nothing. -/
def times (w : Width) (least : Nat) (most : Option Nat) : Width :=
  ⟨w.least * least,
    match most, w.most with
    | some m, some n => some (n * m)
    | some m, none => if m = 0 then some 0 else none
    | none, some n => if n = 0 then some 0 else none
    | none, none => none⟩

/-- The widest fixed width a look behind can have. -/
def longestLook : Nat := 4294967295

/-- Whether a look behind can step back by this width. -/
def isFixed (w : Width) : Bool :=
  decide (w.least ≤ longestLook) && w.most == some w.least

end Width

namespace Node

/-- The widths of the texts that a pattern can match. -/
def width : Node → Width
  | empty | anchor _ | ahead .. | behind .. => .zero
  | code _ | any | set .. => .one
  | seq a b => a.width.add b.width
  | either a b => a.width.join b.width
  | group _ body | modes _ _ body | atomic body => body.width
  | same _ w => w
  | branch _ a b => a.width.join b.width
  | times least most _ body => body.width.times least most

/-- Whether every look behind in the pattern can be carried out, and no quantifier stands
where the modes bar it. -/
def isSound : Modes → Node → Bool
  | _, empty | _, code _ | _, any | _, set .. | _, anchor _ | _, same .. => true
  | m, seq a b | m, either a b | m, branch _ a b => a.isSound m && b.isSound m
  | m, group _ body | m, atomic body | m, ahead _ body => body.isSound m
  | m, modes added dropped body => body.isSound (m.within added dropped)
  | m, times _ _ _ body => !m.plain && body.isSound m
  | m, behind _ w body => w.isFixed && body.isSound m

end Node

end Pattern

/-- A compiled pattern: what it was written as, its tree, and the modes that hold for all of
it. -/
structure Pattern where
  source : Text
  modes : Pattern.Modes
  root : Pattern.Node
deriving DecidableEq, Repr

end Scaffold
