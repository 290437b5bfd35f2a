import Scaffold.Pattern.Matcher

/-!
# Searching and substituting

Where a pattern is found in a text, and what the text becomes when the found parts are
replaced.

A text is cut into *pieces*: alternately what lies between matches and what was matched. The
cut depends on the pattern and the text alone; every substitution is a map over it, and
concatenating the pieces unchanged gives the text back.

After an empty match the next one may begin at the same place, provided it takes something;
after a match that took something the next one may be empty.
-/

namespace Scaffold

namespace Pattern

/-- What the pattern takes at a place, and the place after it. With `nonempty` it has to take
something. -/
def matchAt (r : Pattern) (nonempty : Bool) (p : Place) : Option (Text × Place) :=
  (r.root.run r.modes { p with captures := [] } fun q =>
    if nonempty && q.index == p.index then none else some q).map fun q =>
      ((q.before.take (q.index - p.index)).reverse, { q with captures := [] })

/-- The first match at or after a place: the characters passed over, what was taken, and the
place after it. Only a match right at the place has to be nonempty. -/
def findFrom (r : Pattern) : (nonempty : Bool) → (before after : Text) → (index : Nat) →
    Option (Text × Text × Place)
  | nonempty, before, after, index =>
    match r.matchAt nonempty ⟨before, after, index, []⟩ with
    | some (taken, q) => some ([], taken, q)
    | none =>
      match after with
      | [] => none
      | c :: rest =>
        (findFrom r false (c :: before) rest (index + 1)).map fun (passed, taken, q) =>
          (c :: passed, taken, q)
termination_by structural _ _ after => after

/-- Whether the pattern is found anywhere in the text. -/
def isFound (r : Pattern) (s : Text) : Bool := (r.findFrom false [] s 0).isSome

/-- A part of a text: kept, or found by a pattern. -/
inductive Piece
  | kept (s : Text)
  | found (s : Text)
deriving DecidableEq, Repr

/-- The text of a piece. -/
def Piece.text : Piece → Text
  | kept s => s
  | found s => s

/-- The pieces of a text from a place on, with at most `limit` matches. -/
def piecesFrom (r : Pattern) : (limit : Nat) → (nonempty : Bool) → Place → List Piece
  | 0, _, p => [.kept p.after]
  | n + 1, nonempty, p =>
    match r.findFrom nonempty p.before p.after p.index with
    | none => [.kept p.after]
    | some (passed, taken, q) => .kept passed :: .found taken :: piecesFrom r n taken.isEmpty q

/-- The most matches a text can hold: at every place an empty one and one that takes
something. -/
def mostMatches (s : Text) : Nat := 2 * s.length + 2

/-- The pieces of a text. -/
def pieces (r : Pattern) (s : Text) : List Piece :=
  r.piecesFrom (mostMatches s) false (.start s)

/-- The pieces of a text around the first match. -/
def piecesAtFirst (r : Pattern) (s : Text) : List Piece :=
  r.piecesFrom 1 false (.start s)

/-- A text put together from its pieces, the found ones edited. -/
def editPieces (edit : Text → Text) (ps : List Piece) : Text :=
  ps.flatMap fun
    | .kept s => s
    | .found s => edit s

end Pattern

end Scaffold
