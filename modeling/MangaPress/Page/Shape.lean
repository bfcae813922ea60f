/-
# Reading a page from a value

`Page.ofValue` reads the content of `comic_page` into a `Page`. The value is read in document order
and the first problem found is the one reported; the fields missing from a mapping are reported
after all its keys. Local tags are looked through, except in the number of a panel, which must not
contain any. Unknown keys are ignored with whatever stands under them.

Two notations share these rules. In YAML a null stands for a mapping without entries; in JSON it
does not, but there a list may give the fields of a record by position (`Notation`).

Key definitions: `ShapeError`, `ShapeError.message`, `Page.ofValue`, `readNumber`.
-/
import MangaPress.Page.Basic
import MangaPress.Record
import MangaPress.Decimal.Shortest
import MangaPress.Text.Blank
import MangaPress.Text.Numeral
import MangaPress.Text.Quoted

namespace MangaPress

/-- What a reader of pages expects at some place. -/
inductive Expected where
  | text
  | sequence
  | key
  | record (name : Text)
deriving Repr, DecidableEq

/-- Why a value is not a page. -/
inductive ShapeError where
  | mistyped (found : Yaml.Value) (expected : Expected)
  | fields (problem : FieldProblem)
  | taggedNumber
  | numberKind
  | numberText (text : Text)
deriving Repr

/-- A finite double written out without exponent, with at least one digit on each side of the
point: the shortest digits that read back. -/
def Double.positional (negative : Bool) (magnitude : Nat) : Text :=
  let (digits, exponent) := shortest magnitude
  let sign : Text := if negative then ['-'] else []
  if 0 ≤ exponent then
    sign ++ Text.ofNat digits ++ List.replicate exponent.toNat '0' ++ ".0"
  else
    let places := (-exponent).toNat
    let written := Text.ofNatPadded (places + 1) digits
    let fraction := Text.dropEndWhile (· == '0') (written.drop (written.length - places))
    sign ++ written.take (written.length - places) ++ ['.'] ++
      (if fraction.isEmpty then ['0'] else fraction)

/-- How a message names a value. -/
def Yaml.Value.described : Yaml.Value → Text
  | .null => "unit value"
  | .bool b => "boolean `" ++ (if b then "true" else "false" : Text) ++ "`"
  | .int n => "integer `" ++ Text.ofInt n ++ "`"
  | .float (.finite negative m) => "floating point `" ++ Double.positional negative m ++ "`"
  | .float (.infinity negative) => "floating point `" ++ (if negative then "-inf" else "inf" : Text) ++ "`"
  | .float .nan => "floating point `NaN`"
  | .string t => "string " ++ Text.quoted t
  | .sequence _ => "sequence"
  | .mapping _ => "map"
  | .tagged _ _ => "enum"

/-- How a message names what was expected. -/
def Expected.described : Expected → Text
  | text => "a string"
  | sequence => "a sequence"
  | key => "field identifier"
  | record name => "struct " ++ name

/-- The wording of the error. -/
def ShapeError.message : ShapeError → Text
  | mistyped found expected =>
    "invalid type: " ++ found.described ++ ", expected " ++ expected.described
  | fields (.missing name) => "missing field `" ++ name ++ "`"
  | fields (.duplicate name) => "duplicate field `" ++ name ++ "`"
  | fields .surplus => "surplus items"
  | taggedNumber => "untagged and internally tagged enums do not support enum input"
  | numberKind => "data did not match any variant of untagged enum Raw"
  | numberText text => "panel number must be an integer, got " ++ Text.quoted text

/-- The notation a value was written in. -/
inductive Notation where
  | yaml
  | json
deriving Repr, DecidableEq

namespace Shape

/-- A string. -/
def text (v : Yaml.Value) : Except ShapeError Text :=
  match v.untag with
  | .string t => .ok t
  | other => .error (.mistyped other .text)

/-- A string, or null for none. -/
def optionalText : Yaml.Value → Except ShapeError (Option Text)
  | .null => .ok none
  | v => (text v).map some

/-- The items of a sequence; null stands for none. -/
def items (v : Yaml.Value) : Except ShapeError (List Yaml.Value) :=
  match v.untag with
  | .sequence items => .ok items
  | .null => .ok []
  | other => .error (.mistyped other .sequence)

/-- The items of a sequence, each read in turn up to the first that cannot be. -/
def list {α : Type} (read : Yaml.Value → Except ShapeError α) (v : Yaml.Value) :
    Except ShapeError (List α) :=
  (items v).bind fun vs => vs.mapM read

/-- The key of a mapping entry as the name of a field. -/
def fieldName (key : Yaml.Value) : Except ShapeError Text :=
  match key.untag with
  | .string t => .ok t
  | other => .error (.mistyped other .key)

/-- A record in the notation. -/
def record {σ : Type} (n : Notation) (name : Text) (r : Record Yaml.Value ShapeError σ)
    (v : Yaml.Value) : Except ShapeError σ :=
  let named := r.readNamed .fields fieldName fun _ => .ok ()
  match v.untag, n with
  | .mapping entries, _ => named entries
  | .null, .yaml => named []
  | .sequence items, .json => r.readListed .fields items
  | other, _ => .error (.mistyped other (.record name))

/-- An optional text of a record. -/
def textField {σ : Type} (name : Text) (set : Option Text → σ → σ)
    (otherNames : List Text := []) : Field Yaml.Value ShapeError σ where
  name := name
  otherNames := otherNames
  read v s := (optionalText v).map (set · s)

end Shape

/-- The number of a panel: an integer, or a text of one between white space, within the range of
64-bit signed integers. -/
def readNumber (v : Yaml.Value) : Except ShapeError Int :=
  if v.hasTag then .error .taggedNumber
  else
    match v with
    | .int n => if Text.inInt64 n then .ok n else .error .numberKind
    | .string t =>
      match (Text.toInt? (Text.trim t)).filter Text.inInt64 with
      | some n => .ok n
      | none => .error (.numberText t)
    | _ => .error .numberKind

open Shape

/-- The fields of a line of speech. -/
def DialogueLine.record : Record Yaml.Value ShapeError DialogueLine where
  blank := {}
  fields := [
    { name := "text", read := fun v s => (Shape.text v).map fun t => { s with text := t } },
    textField "char_text_position" fun t s => { s with textPosition := t },
    textField "type" fun t s => { s with kind := t }]

/-- The fields of an appearance. -/
def Appearance.record (n : Notation) : Record Yaml.Value ShapeError Appearance where
  blank := {}
  fields := [
    { name := "name", presence := .required
      read := fun v s => (Shape.text v).map fun t => { s with name := t } },
    textField "panel_position" fun t s => { s with position := t },
    textField "emotion" fun t s => { s with emotion := t },
    textField "facing" fun t s => { s with facing := t },
    textField "shot" fun t s => { s with shot := t },
    textField "pose" fun t s => { s with pose := t },
    textField "description" fun t s => { s with description := t },
    { name := "lines"
      read := fun v s =>
        (list (Shape.record n "DialogueLine" DialogueLine.record) v).map fun ls =>
          { s with lines := ls } }]

/-- The fields of a recurring character. -/
def CharacterDesign.record : Record Yaml.Value ShapeError CharacterDesign where
  blank := {}
  fields := [
    { name := "name", presence := .required
      read := fun v s => (Shape.text v).map fun t => { s with name := t } },
    textField "base_prompt" fun t s => { s with basePrompt := t }]

/-- The fields of a panel. -/
def Panel.record (n : Notation) : Record Yaml.Value ShapeError Panel where
  blank := {}
  fields := [
    { name := "number", presence := .required
      read := fun v s => (readNumber v).map fun k => { s with number := k } },
    textField "page_position" fun t s => { s with pagePosition := t },
    textField "background" fun t s => { s with background := t },
    textField "description" fun t s => { s with description := t },
    textField "camera_angle" fun t s => { s with cameraAngle := t },
    { name := "effects", read := fun v s => (items v).map fun vs => { s with effects := vs } },
    { name := "monologues"
      read := fun v s => (items v).map fun vs => { s with monologues := vs } },
    { name := "characters"
      read := fun v s =>
        (list (Shape.record n "PanelCharacter" (Appearance.record n)) v).map fun cs =>
          { s with characters := cs } }]

/-- The fields of a page. The direction of writing has two spellings. -/
def Page.record (n : Notation) : Record Yaml.Value ShapeError Page where
  blank := {}
  fields := [
    textField "language" fun t s => { s with language := t },
    textField "style" fun t s => { s with style := t },
    textField "color_mode" fun t s => { s with colorMode := t },
    textField "aspect_ratio" fun t s => { s with aspectRatio := t },
    textField "writing-mode" (fun t s => { s with writingMode := t }) ["writing_mode"],
    textField "instructions" fun t s => { s with instructions := t },
    textField "layout_constraints" fun t s => { s with layoutConstraints := t },
    { name := "character_infos"
      read := fun v s =>
        (list (Shape.record n "CharacterIdentity" CharacterDesign.record) v).map fun cs =>
          { s with characters := cs } },
    { name := "panels"
      read := fun v s =>
        (list (Shape.record n "Panel" (Panel.record n)) v).map fun ps => { s with panels := ps } }]

/-- The page that a value describes. -/
def Page.ofValue (n : Notation) (v : Yaml.Value) : Except ShapeError Page :=
  Shape.record n "Page" (Page.record n) v

end MangaPress
