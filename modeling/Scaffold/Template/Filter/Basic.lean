import Scaffold.Text.Basic

/-!
# Filters

The filters that a template can use, by name. Some of them have two.
-/

namespace Scaffold

namespace Template

/-- A filter. -/
inductive Filter
  | abs
  | attr
  | batch
  | capitalize
  | center
  | count
  | default
  | dictSort
  | escape
  | fileSize
  | first
  | float
  | forceEscape
  | format
  | groupBy
  | indent
  | int
  | items
  | join
  | kebabCase
  | last
  | list
  | lower
  | lowerCamelCase
  | map
  | max
  | min
  | pascalCase
  | plural
  | pretty
  | random
  | reject
  | rejectAttr
  | replace
  | reverse
  | round
  | safe
  | select
  | selectAttr
  | slice
  | snakeCase
  | sort
  | string
  | stripTags
  | sum
  | title
  | toJson
  | trim
  | truncate
  | unique
  | upper
  | urlEncode
  | urlize
  | wordCount
  | wordWrap
  | xmlAttr
deriving DecidableEq, Repr

namespace Filter

/-- The filters by name. -/
def named : List (String × Filter) :=
  [("abs", abs), ("attr", attr), ("batch", batch), ("camel_case", lowerCamelCase),
    ("capitalize", capitalize), ("center", center), ("count", count), ("d", default),
    ("default", default), ("dictsort", dictSort), ("e", escape), ("escape", escape),
    ("filesizeformat", fileSize), ("first", first), ("float", float),
    ("forceescape", forceEscape), ("format", format), ("groupby", groupBy), ("indent", indent),
    ("int", int), ("items", items), ("join", join), ("kebab_case", kebabCase), ("last", last),
    ("length", count), ("list", list), ("lower", lower), ("lower_camel_case", lowerCamelCase),
    ("map", map), ("max", max), ("min", min), ("pascal_case", pascalCase), ("plural", plural),
    ("pprint", pretty), ("random", random), ("reject", reject), ("rejectattr", rejectAttr),
    ("replace", replace), ("reverse", reverse), ("round", round), ("safe", safe),
    ("select", select), ("selectattr", selectAttr), ("slice", slice), ("snake_case", snakeCase),
    ("sort", sort), ("string", string), ("striptags", stripTags), ("sum", sum), ("title", title),
    ("tojson", toJson), ("trim", trim), ("truncate", truncate), ("unique", unique),
    ("upper", upper), ("urlencode", urlEncode), ("urlize", urlize), ("wordcount", wordCount),
    ("wordwrap", wordWrap), ("xmlattr", xmlAttr)]

/-- The filter with a name. -/
def ofName? (name : Text) : Option Filter :=
  (named.find? fun (n, _) => Text.of n = name).map (·.2)

end Filter

end Template

end Scaffold
