/-
# Documents

`Value.parse?` reads a text as one YAML document. The events of the document are read into a value;
an alias stands for the node whose anchor has its number (`Numbered`). A document has no value if a
mapping holds a key twice, if a scalar does not fit its tag, if collections are nested too deep, or
if aliases are followed too often, which an alias inside its own anchor leads to.

Anchors are numbered as they come, with the number of different names seen before. An anchor whose
name comes again gets a number of its own, but the names are no more than they were; so the next new
name takes over that number. The node that took a number last has it.

Key definitions: `Numbered`, `number?`, `Reader`, `Value.parse?`, `events?`.
Key theorem: `Value.parse?_of_events`.
-/
import MangaPress.Yaml.Event
import MangaPress.Yaml.Scalar

namespace MangaPress.Yaml

/-- An event in which aliases refer to anchors by number. -/
inductive Numbered where
  | alias (anchor : Nat)
  | scalar (tag : Option Bytes) (text : Text) (plain : Bool)
  | sequenceStart (tag : Option Bytes)
  | sequenceEnd
  | mappingStart (tag : Option Bytes)
  | mappingEnd
deriving Repr, DecidableEq, Inhabited

/-- The anchors met so far: the number of each name, and the place of the node that took each
number last. -/
structure Anchors where
  numbers : List (Text × Nat) := []
  places : List (Nat × Nat) := []
deriving Repr, Inhabited

namespace Anchors

/-- The number of different names. -/
def count (a : Anchors) : Nat :=
  a.numbers.length

/-- Notes an anchor on the node at the place. -/
def note (anchor : Option Text) (place : Nat) (a : Anchors) : Anchors :=
  match anchor with
  | none => a
  | some name =>
    { numbers := (name, a.count) :: a.numbers.filter fun entry => entry.1 != name
      places := (a.count, place) :: a.places }

end Anchors

/-- Numbers the anchors and aliases of events, the first of which stands at the place; none if an
alias has a name that was not met. -/
def number? : Nat → Anchors → List Event → Option (List Numbered × Anchors)
  | _, anchors, [] => some ([], anchors)
  | place, anchors, e :: rest => do
    let (numbered, anchors) ←
      match e with
      | .alias name => (anchors.numbers.lookup name).map fun n => (Numbered.alias n, anchors)
      | .scalar props text plain =>
        some (Numbered.scalar props.tag text plain, anchors.note props.anchor place)
      | .sequenceStart props =>
        some (Numbered.sequenceStart props.tag, anchors.note props.anchor place)
      | .mappingStart props =>
        some (Numbered.mappingStart props.tag, anchors.note props.anchor place)
      | .sequenceEnd => some (Numbered.sequenceEnd, anchors)
      | .mappingEnd => some (Numbered.mappingEnd, anchors)
    let (more, anchors) ← number? (place + 1) anchors rest
    some (numbered :: more, anchors)

/-- The deepest nesting of collections. -/
def maxDepth : Nat := 128

/-- How many aliases may be followed for each event of the document. -/
def aliasesPerEvent : Nat := 100

/-- The name of a local tag: the text after its exclamation mark, and after a second one if there is
more; a lone mark is a name of its own. Other tags are not local. -/
def localTag? (tag : Bytes) : Option Text :=
  let afterMark (t : Text) : Text :=
    match t with
    | ['!'] => ['!']
    | '!' :: rest => rest
    | rest => rest
  match Text.decode? tag with
  | some ('!' :: rest) => some (afterMark (afterMark ('!' :: rest)))
  | _ => none

/-- What a reader of a document knows: its events, and where the anchors are. -/
structure Reader where
  events : List Numbered
  places : List (Nat × Nat)

namespace Reader

/-- The node that an anchor marks, with all that follows it. -/
def target? (r : Reader) (anchor : Nat) : Option (List Numbered) :=
  (r.places.lookup anchor).map r.events.drop

/-- How many aliases may be followed in all. -/
def maxAliases (r : Reader) : Nat :=
  aliasesPerEvent * r.events.length

/-- The value of a scalar. With `tagged` its tag has been dealt with. -/
def scalar? (tagged : Bool) (tag : Option Bytes) (text : Text) (plain : Bool) : Option Value :=
  match tag with
  | some tag =>
    if tagged then if plain then Scalar.ofPlain? text else some (.string text)
    else if tag.head? == some 0x21 && plain then Scalar.ofPlain? text
    else Scalar.ofTag? tag text
  | none => if plain then Scalar.ofPlain? text else some (.string text)

/-- The local tag of a node, if it is still to be dealt with. -/
def pendingTag? (tagged : Bool) : Numbered → Option Text
  | .scalar (some tag) _ _ | .sequenceStart (some tag) | .mappingStart (some tag) =>
    if tagged then none else localTag? tag
  | _ => none

mutual

/-- Reads a node: its value, the events after it, and how many aliases have been followed. `depth`
is the number of collections that may still be nested in each other. -/
def node (r : Reader) : Nat → Nat → Nat → Bool → List Numbered →
    Option (Value × List Numbered × Nat)
  | 0, _, _, _, _ => none
  | _ + 1, _, _, _, [] => none
  | fuel + 1, depth, followed, tagged, e :: rest =>
    match pendingTag? tagged e with
    | some tag =>
      match node r fuel depth followed true (e :: rest) with
      | none => none
      | some (v, rest, followed) => some (.tagged tag v, rest, followed)
    | none =>
      match e with
      | .alias anchor =>
        if r.maxAliases < followed + 1 then none
        else
          match r.target? anchor with
          | none => none
          | some target =>
            match node r fuel depth (followed + 1) false target with
            | none => none
            | some (v, _, followed) => some (v, rest, followed)
      | .scalar tag text plain => (scalar? tagged tag text plain).map fun v => (v, rest, followed)
      | .sequenceStart _ =>
        if depth = 0 then none
        else
          match items r fuel (depth - 1) followed rest with
          | none => none
          | some (vs, rest, followed) => some (.sequence vs, rest, followed)
      | .mappingStart _ =>
        if depth = 0 then none
        else
          match entries r fuel (depth - 1) followed tagged [] rest with
          | none => none
          | some (es, rest, followed) => some (.mapping es, rest, followed)
      | .sequenceEnd | .mappingEnd => none

/-- Reads the items of a sequence up to its end. -/
def items (r : Reader) : Nat → Nat → Nat → List Numbered →
    Option (List Value × List Numbered × Nat)
  | 0, _, _, _ => none
  | fuel + 1, depth, followed, events =>
    match events with
    | .sequenceEnd :: rest => some ([], rest, followed)
    | events =>
      match node r fuel depth followed false events with
      | none => none
      | some (v, rest, followed) =>
        match items r fuel depth followed rest with
        | none => none
        | some (vs, rest, followed) => some (v :: vs, rest, followed)

/-- Reads the entries of a mapping up to its end, after those already read. Under a tag of the
mapping the keys count as tagged. -/
def entries (r : Reader) : Nat → Nat → Nat → Bool → List (Value × Value) → List Numbered →
    Option (List (Value × Value) × List Numbered × Nat)
  | 0, _, _, _, _, _ => none
  | fuel + 1, depth, followed, tagged, read, events =>
    match events with
    | .mappingEnd :: rest => some (read, rest, followed)
    | events =>
      match node r fuel depth followed tagged events with
      | none => none
      | some (k, rest, followed) =>
        if Value.hasKey k read then none
        else
          match node r fuel depth followed false rest with
          | none => none
          | some (v, rest, followed) =>
            entries r fuel depth followed tagged (read ++ [(k, v)]) rest

end

/-- The value of the document. Every path of nested calls goes down at most `maxDepth` collections
and along the events in each of them. -/
def read? (r : Reader) : Option Value :=
  match r.events with
  | [] => some .null
  | events =>
    (node r ((maxDepth + 2) * (2 * events.length + 4)) maxDepth 0 false events).map (·.1)

end Reader

/-- The value of a text that is one YAML document. -/
def Value.parse? (t : Text) : Option Value := do
  let tokens ← Token.scan t
  let events ← Event.ofTokens? tokens
  let (numbered, anchors) ← number? 0 {} events
  Reader.read? { events := numbered, places := anchors.places }

/-- The events of a text, with the places of its anchors. -/
def events? (t : Text) : Option (List Numbered × List (Nat × Nat)) := do
  let tokens ← Token.scan t
  let events ← Event.ofTokens? tokens
  let (numbered, anchors) ← number? 0 {} events
  some (numbered, anchors.places)

/-- The value of a text is what its events say. -/
theorem Value.parse?_of_events {t : Text} {events : List Numbered} {places : List (Nat × Nat)}
    (h : events? t = some (events, places)) :
    parse? t = Reader.read? { events := events, places := places } := by
  simp only [events?, Option.bind_eq_bind, Option.bind_eq_some_iff, Option.some_inj] at h
  obtain ⟨tokens, htokens, unnumbered, hunnumbered, ⟨numbered, anchors⟩, hnumbered, h⟩ := h
  obtain ⟨rfl, rfl⟩ := Prod.mk.inj h
  unfold parse?
  simp only [Option.bind_eq_bind, htokens, hunnumbered, hnumbered, Option.bind_some]

end MangaPress.Yaml
