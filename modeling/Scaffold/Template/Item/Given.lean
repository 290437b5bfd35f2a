import Scaffold.Template.Item.Basic

/-!
# What a call is given

Items by position and items by name. A function that knows its parameters sorts them out: what
is given by position comes first, no parameter is given twice, and none without a default is left
out.
-/

namespace Scaffold

namespace Template

/-- What a call is given. -/
structure Given where
  positional : List Item
  named : List (Text × Item)
deriving Repr, Inhabited

/-- A parameter, and its default if it may be left out. -/
abbrev Parameter := String × Option Item

namespace Given

/-- Nothing by name. -/
def byPosition (items : List Item) : Given := ⟨items, []⟩

/-- The items for parameters, in their order. -/
def sortedOut : List Parameter → List Item → List (Text × Item) → Except Fault (List Item)
  | [], [], [] => .ok []
  | [], _, _ => .error .unfit
  | (name, _) :: parameters, item :: items, named =>
    if named.any fun (n, _) => n = Text.of name then .error .unfit
    else do return item :: (← sortedOut parameters items named)
  | (name, default) :: parameters, [], named =>
    match named.lookup (Text.of name) with
    | some item => do
      return item :: (← sortedOut parameters [] (named.filter fun (n, _) => n ≠ Text.of name))
    | none => match default with
      | some item => do return item :: (← sortedOut parameters [] named)
      | none => .error .unfit

/-- The items for parameters, in their order. -/
def forParameters (g : Given) (parameters : List Parameter) : Except Fault (List Item) :=
  sortedOut parameters g.positional g.named

/-- The items for parameters that can only be given by position. -/
def onlyByPosition (g : Given) (parameters : List Parameter) : Except Fault (List Item) :=
  if g.named.isEmpty then sortedOut parameters g.positional [] else .error .unfit

end Given

end Template

end Scaffold
