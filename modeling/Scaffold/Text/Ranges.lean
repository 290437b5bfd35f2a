/-!
# Sets of code points as runs

A Unicode class is written down as the ascending list of its runs, each with both ends.
-/

namespace Scaffold

namespace Text

/-- Ascending runs of code points, both ends included. -/
abbrev Ranges := List (Nat × Nat)

/-- Whether a code point lies in one of the runs. The runs ascend, so the search stops at
the first one that begins later. -/
def Ranges.has : Ranges → Nat → Bool
  | [], _ => false
  | (first, last) :: rest, n =>
    if n < first then false else decide (n ≤ last) || Ranges.has rest n

/-- Where the run that holds the code point begins. -/
def Ranges.start? : Ranges → Nat → Option Nat
  | [], _ => none
  | (first, last) :: rest, n =>
    if n < first then none else if n ≤ last then some first else Ranges.start? rest n

end Text

end Scaffold
