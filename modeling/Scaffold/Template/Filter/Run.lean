import Scaffold.Template.Filter.Collection
import Scaffold.Template.Filter.Notation
import Scaffold.Template.Filter.Number
import Scaffold.Template.Filter.Text
import Scaffold.Template.Test

/-!
# Applying filters

What each filter makes of an item. Filters that apply another filter or a test to every item name
it by their first argument, so that there is one argument less for the next.
-/

namespace Scaffold

namespace Template

namespace Filter

open Item Apply

/-- An item, or a default for one that is not there. -/
def runDefault (item : Item) (g : Given) : Work Item := do
  let [absent, alsoFalse] ← lift (g.forParameters
    [("default_value", some (.plain [])), ("boolean", some (.bool false))]) | throw .unfit
  if item.isUndefined then return absent
  if (← isTrue alsoFalse) && !(← isTrue item) then return absent
  return item

/-- An item as safe text. -/
def runEscape (item : Item) (g : Given) : Work Item := do
  let _ ← lift (g.forParameters [])
  return .text true (← lift (item.escapedText (← heap)))

/-- An item as safe text, escaped even if it is safe. -/
def runForceEscape (item : Item) (g : Given) : Work Item := do
  let _ ← lift (g.forParameters [])
  return .text true (escaped (← writtenText item))

/-- A member of an item. -/
def runAttr (set : Setting) (item : Item) (g : Given) : Work Item := do
  let [name] ← lift (g.forParameters [("name", none)]) | throw .unfit
  let .text _ name := name | throw .unfit
  return (← member? item name).getD (.undefined set.strict)

/-- The name that a filter or a test is asked for by. -/
def nameOf {α : Type} (ofName? : Text → Option α) (item : Item) : Work α := do
  match item with
  | .text _ s => match ofName? s with
    | some found => return found
    | none => throw .misuse
  | item =>
    if !item.isUndefined then lift (item.checkKey (← heap))
    throw .misuse

/-- The items of a true item, with what comes after them. -/
def itemsIfTrue (item : Item) : Work (List Item × Option Fault) := do
  if ← isTrue item then takeLazily item else return ([], none)

/-- The items that pass a test, or those that do not. -/
def runSelect (set : Setting) (keeps byAttribute : Bool) (item : Item) (g : Given) : Work Item :=
  streamed (itemsIfTrue item) fun i => do
    let (subject, rest) ← match byAttribute, g.positional with
      | true, [] => throw .misuse
      | true, path :: rest => do
        pure (← follow set (← lift (pathOf path)) .null i, rest)
      | false, rest => pure (i, rest)
    let passes ← match rest with
      | [] => isTrue subject
      | name :: rest => do (← nameOf Test.ofName? name).run subject ⟨rest, g.named⟩
    return if passes = keeps then [i] else []

/-- An attribute of every item. -/
def attributeOfEach (set : Setting) (path : Item) (named : List (Text × Item)) (item : Item) :
    Work (List Item) := do
  let absent := (named.lookup (Text.of "default")).getD .null
  if named.any fun (n, _) => n != Text.of "attribute" && n != Text.of "default" then throw .misuse
  return [← follow set (← lift (pathOf path)) absent item]

/-- What a filter makes of an item. Only so many filters may apply another one. -/
def runWithin : (fuel : Nat) → Filter → Setting → Item → Given → Work Item
  | 0, _, _, _, _ => throw .tooDeep
  | fuel + 1, f, set, item, g =>
    match f with
    | abs => runAbs item g
    | attr => runAttr set item g
    | batch => runBatch item g
    | capitalize => changed Text.capitalize item g
    | center => runCenter item g
    | count => runCount item g
    | default => runDefault item g
    | dictSort => runDictSort item g
    | escape => runEscape item g
    | fileSize => runFileSize item g
    | first => runFirst set item g
    | float => runFloat item g
    | forceEscape => runForceEscape item g
    | format => runFormat item g
    | groupBy => runGroupBy set item g
    | indent => runIndent item g
    | int => runInt item g
    | items => runItems item g
    | join => runJoin set item g
    | kebabCase => restyled Words.kebabCase item g
    | last => runLast set item g
    | list => runList item g
    | lower => changed Text.lower item g
    | lowerCamelCase => restyled Words.lowerCamelCase item g
    | map => streamed (itemsIfTrue item) fun i => do
      match g.positional, g.named.lookup (Text.of "attribute") with
      | [], some path => attributeOfEach set path g.named i
      | [], none => throw .misuse
      | name :: rest, _ => do
        return [← runWithin fuel (← nameOf ofName? name) set i ⟨rest, g.named⟩]
    | max => runExtreme set .gt item g
    | min => runExtreme set .lt item g
    | pascalCase => restyled Words.pascalCase item g
    | plural => restyled Words.plural item g
    | pretty => runPretty item g
    | random => runRandom set item g
    | reject => runSelect set false false item g
    | rejectAttr => runSelect set false true item g
    | replace => runReplace set item g
    | reverse => runReverse item g
    | round => runRound item g
    | safe => do
      let _ ← lift (g.forParameters [])
      return .text true (← writtenText item)
    | select => runSelect set true false item g
    | selectAttr => runSelect set true true item g
    | slice => runSlice item g
    | snakeCase => restyled Words.snakeCase item g
    | sort => runSort set item g
    | string => changed id item g
    | stripTags => runStripTags item g
    | sum => runSum set item g
    | title => do
      let _ ← lift (g.forParameters [])
      return .plain (titled (← softText item).2)
    | toJson => runToJson item g
    | trim => runTrim item g
    | truncate => runTruncate item g
    | unique => runUnique set item g
    | upper => changed Text.upper item g
    | urlEncode => runUrlEncode item g
    | urlize => runUrlize set item g
    | wordCount => do
      let _ ← lift (g.forParameters [])
      return .nat (wordsIn false (← softText item).2)
    | wordWrap => runWordWrap item g
    | xmlAttr => runXmlAttr set item g

/-- What a filter makes of an item. -/
def run (f : Filter) (set : Setting) (item : Item) (g : Given) : Work Item :=
  runWithin (g.positional.length + 1) f set item g

end Filter

end Template

end Scaffold
