/-
# Decoding JSON

A decoder takes a `Reading` to a typed value and fails at the first problem met while reading from
left to right: `malformed` where the source is no JSON, or a string or number in it has no value,
and `mistyped` where it is JSON of another type. Values under unknown keys only have to be JSON;
their strings and numbers need not have a value.

A record is read from an object by name or from an array by position (`Record`).

Key definitions: `Failure`, `Decoder`, `Decoder.record`, `Document.decode`, `Document.decodeFirst`.
-/
import MangaPress.Json.Number
import MangaPress.Json.Reading
import MangaPress.Record

namespace MangaPress.Json

/-- Why a source cannot be decoded. -/
inductive Failure where
  /-- The source is not JSON. -/
  | malformed
  /-- The source is JSON, but of another type. -/
  | mistyped
deriving Repr, DecidableEq

/-- A reader of values of one type. -/
abbrev Decoder (α : Type) := Reading → Except Failure α

/-- What goes wrong where a value of another type was expected: the value is read to its end if it
is a string or a number, and to its first character otherwise. -/
def Reading.mismatch : Reading → Failure
  | broken => .malformed
  | string none => .malformed
  | number spelling => if (Number.ofSpelling? spelling).isNone then .malformed else .mistyped
  | _ => .mistyped

/-- Passes over a value. -/
def Reading.skip (r : Reading) : Except Failure Unit :=
  if r.wellFormed then .ok () else .error .malformed

namespace Decoder

/-- A string. -/
def text : Decoder Text
  | .string (some t) => .ok t
  | r => .error r.mismatch

/-- A truth value. -/
def bool : Decoder Bool
  | .bool b => .ok b
  | r => .error r.mismatch

/-- A value, or null for none. -/
def optional {α : Type} (decode : Decoder α) : Decoder (Option α)
  | .null => .ok none
  | r => (decode r).map some

/-- An array of values of one type. -/
def list {α : Type} (decode : Decoder α) : Decoder (List α)
  | .array items closed => do
    let values ← items.mapM decode
    if closed then .ok values else .error .malformed
  | r => .error r.mismatch

/-- The key of a member. -/
def key : Option Text → Except Failure Text
  | some t => .ok t
  | none => .error .malformed

/-- A member of an object: its key and then its value. -/
def member {α : Type} (decode : Decoder α) (m : Option Text × Reading) :
    Except Failure (Text × α) := do
  let k ← key m.1
  let v ← decode m.2
  .ok (k, v)

/-- The values of an object, each with its key, in order. -/
def members {α : Type} (decode : Decoder α) : Decoder (List (Text × α))
  | .object entries closed => do
    let values ← entries.mapM (member decode)
    if closed then .ok values else .error .malformed
  | r => .error r.mismatch

/-- What a problem with the fields of a record is in an array that may not be closed. -/
def listProblem (closed : Bool) : FieldProblem → Failure
  | .surplus => .malformed
  | _ => if closed then .mistyped else .malformed

/-- A record, from an object or an array. -/
def record {σ : Type} (r : Record Reading Failure σ) : Decoder σ
  | .object entries closed => do
    let (seen, s) ← r.readEntries (fun _ => .mistyped) key Reading.skip entries [] r.blank
    if closed then r.finish (fun _ => .mistyped) seen s else .error .malformed
  | .array items closed => do
    let s ← r.readListed (listProblem closed) items
    if closed then .ok s else .error .malformed
  | other => .error other.mismatch

end Decoder

/-- Decodes the value at the beginning of a source; what follows it is not looked at. -/
def Document.decodeFirst {α : Type} (decode : Decoder α) (d : Document) : Except Failure α :=
  decode d.value

/-- Decodes a source that holds one value and nothing else. -/
def Document.decode {α : Type} (decode : Decoder α) (d : Document) : Except Failure α :=
  match decode d.value with
  | .error e => .error e
  | .ok v => if d.complete then .ok v else .error .malformed

end MangaPress.Json
