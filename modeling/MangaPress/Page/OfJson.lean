/-
# Pages in JSON

The content of `comic_page` may also be given as a JSON value. It is read by the same rules as in a
page document (`Page.ofValue`), in the notation of JSON.

Key definitions: `Json.Reading.toValue?`, `Page.ofJson?`.
-/
import MangaPress.Json.Number
import MangaPress.Json.Reading
import MangaPress.Page.Shape

namespace MangaPress

namespace Json

/-- The value of a JSON number as a YAML value. -/
def Number.toValue : Number → Yaml.Value
  | int n => .int n
  | float x => .float x

namespace Reading

mutual

/-- The value that was read, if it was read to its end and all of it has a value. -/
def toValue? : Reading → Option Yaml.Value
  | null => some .null
  | bool b => some (.bool b)
  | number spelling => (Number.ofSpelling? spelling).map Number.toValue
  | string content => content.map .string
  | array items closed => if closed then (toValues? items).map .sequence else none
  | object members closed => if closed then (toEntries? members).map .mapping else none
  | broken => none

/-- The values of items. -/
def toValues? : List Reading → Option (List Yaml.Value)
  | [] => some []
  | r :: rest => do
    let v ← toValue? r
    let vs ← toValues? rest
    some (v :: vs)

/-- The entries that members are. -/
def toEntries? : List (Option Text × Reading) → Option (List (Yaml.Value × Yaml.Value))
  | [] => some []
  | (key, r) :: rest => do
    let key ← key
    let v ← toValue? r
    let entries ← toEntries? rest
    some ((.string key, v) :: entries)

end

end Reading

end Json

/-- The page that a JSON value describes. -/
def Page.ofJson? (r : Json.Reading) : Option Page :=
  r.toValue?.bind fun v => (Page.ofValue .json v).toOption

end MangaPress
