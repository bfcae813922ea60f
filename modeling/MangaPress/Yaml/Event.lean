/-
# Events

`Event.ofTokens?` checks the order of the tokens against the grammar of YAML and gives the document
as a sequence of events: scalars, aliases, and the beginnings and ends of collections. Nodes that
are left out become empty plain scalars. The grammar is run with a stack of the places (`Place`) to
go on from when the node at hand is complete.

A text holds one document at most. A text without any has no events.

Key definitions: `Event`, `Event.Place`, `Event.Parser`, `Event.ofTokens?`.
-/
import MangaPress.Yaml.Token

namespace MangaPress.Yaml

/-- The anchor and tag of a node. -/
structure Properties where
  anchor : Option Text := none
  tag : Option Bytes := none
deriving Repr, DecidableEq, Inhabited

/-- The parts of a document in order. -/
inductive Event where
  | alias (name : Text)
  | scalar (properties : Properties) (text : Text) (plain : Bool)
  | sequenceStart (properties : Properties)
  | sequenceEnd
  | mappingStart (properties : Properties)
  | mappingEnd
deriving Repr, DecidableEq, Inhabited

namespace Event

/-- A node that is left out. -/
def empty : Event := scalar {} [] true

/-- Where in the grammar a parser goes on. -/
inductive Place where
  | blockNode
  | blockSequenceEntry
  | indentlessSequenceEntry
  | blockMappingKey
  | blockMappingValue
  | flowSequenceFirst
  | flowSequenceEntry
  | flowPairKey
  | flowPairValue
  | flowPairEnd
  | flowMappingFirst
  | flowMappingKey
  | flowMappingValue
  | flowMappingNoValue
deriving Repr, DecidableEq, Inhabited

/-- The prefixes of the tag handles in a document. -/
abbrev Handles := List (Text × Bytes)

/-- The handles known without a directive. -/
def defaultHandles : Handles :=
  [(['!'], Text.encode ['!']), (['!', '!'], Text.encode "tag:yaml.org,2002:")]

/-- The parser: the tokens to come, the places to go on from with the next one first, and the
events so far in reverse order. -/
structure Parser where
  tokens : List Token
  places : List Place
  events : List Event
deriving Repr, Inhabited

namespace Parser

/-- The next token. -/
def next? (p : Parser) : Option Token :=
  p.tokens.head?

/-- Passes over the next token. -/
def skip (p : Parser) : Parser :=
  { p with tokens := p.tokens.drop 1 }

/-- One more event. -/
def emit (e : Event) (p : Parser) : Parser :=
  { p with events := e :: p.events }

/-- Goes on at the place. -/
def goto (place : Place) (p : Parser) : Parser :=
  { p with places := place :: p.places }

/-- A node that is left out, and then the place. -/
def emptyThen (place : Place) (p : Parser) : Parser :=
  (p.goto place).emit .empty

/-- The tag that a written tag stands for. -/
def resolve? (handles : Handles) (t : Tag.Written) : Option Bytes :=
  if t.handle.isEmpty then some t.suffix
  else (handles.lookup t.handle).map (· ++ t.suffix)

/-- Reads an anchor and a tag, in either order. -/
def properties? (handles : Handles) : List Token → Option (Properties × List Token)
  | .anchor a :: .tag t :: rest =>
    (resolve? handles t).map fun tag => ({ anchor := some a, tag := some tag }, rest)
  | .tag t :: .anchor a :: rest =>
    (resolve? handles t).map fun tag => ({ anchor := some a, tag := some tag }, rest)
  | .anchor a :: rest => some ({ anchor := some a }, rest)
  | .tag t :: rest => (resolve? handles t).map fun tag => ({ tag := some tag }, rest)
  | rest => some ({}, rest)

/-- Whether a node with these properties counts as one even if nothing else of it is there. -/
def hasProperties (props : Properties) : Bool :=
  props.anchor.isSome || props.tag.isSome

/-- Reads a node; `block` admits block collections, `indentless` a block sequence at the indentation
of the mapping around it. -/
def node (handles : Handles) (block indentless : Bool) (p : Parser) : Option Parser :=
  match p.tokens with
  | .alias name :: rest => some ({ p with tokens := rest }.emit (.alias name))
  | tokens => do
    let (props, tokens) ← properties? handles tokens
    match tokens with
    | .scalar text plain :: rest =>
      some ({ p with tokens := rest }.emit (.scalar props text plain))
    | .flowSequenceStart :: rest =>
      some (({ p with tokens := rest }.goto .flowSequenceFirst).emit (.sequenceStart props))
    | .flowMappingStart :: rest =>
      some (({ p with tokens := rest }.goto .flowMappingFirst).emit (.mappingStart props))
    | .blockEntry :: _ =>
      if indentless then
        some (({ p with tokens }.goto .indentlessSequenceEntry).emit (.sequenceStart props))
      else if hasProperties props then some ({ p with tokens }.emit (.scalar props [] true))
      else none
    | .blockSequenceStart :: rest =>
      if block then
        some (({ p with tokens := rest }.goto .blockSequenceEntry).emit (.sequenceStart props))
      else if hasProperties props then some ({ p with tokens }.emit (.scalar props [] true))
      else none
    | .blockMappingStart :: rest =>
      if block then
        some (({ p with tokens := rest }.goto .blockMappingKey).emit (.mappingStart props))
      else if hasProperties props then some ({ p with tokens }.emit (.scalar props [] true))
      else none
    | _ =>
      if hasProperties props then some ({ p with tokens }.emit (.scalar props [] true)) else none

/-- Reads an entry of a flow sequence, or its end. -/
def flowSequenceItem (handles : Handles) (p : Parser) : Option Parser :=
  match p.next? with
  | some .flowSequenceEnd => some (p.skip.emit .sequenceEnd)
  | some .key => some ((p.skip.goto .flowPairKey).emit (.mappingStart {}))
  | _ => (p.goto .flowSequenceEntry).node handles false false

/-- Reads an entry of a flow mapping, or its end. -/
def flowMappingItem (handles : Handles) (p : Parser) : Option Parser :=
  match p.next? with
  | some .flowMappingEnd => some (p.skip.emit .mappingEnd)
  | some .key =>
    let p := p.skip
    match p.next? with
    | some .value | some .flowEntry | some .flowMappingEnd => some (p.emptyThen .flowMappingValue)
    | _ => (p.goto .flowMappingValue).node handles false false
  | _ => (p.goto .flowMappingNoValue).node handles false false

/-- Goes on at a place that is no longer among those to go on from. -/
def resume (handles : Handles) (place : Place) (p : Parser) : Option Parser :=
  match place with
  | .blockNode => p.node handles true false
  | .blockSequenceEntry =>
    match p.next? with
    | some .blockEntry =>
      let p := p.skip
      match p.next? with
      | some .blockEntry | some .blockEnd => some (p.emptyThen .blockSequenceEntry)
      | _ => (p.goto .blockSequenceEntry).node handles true false
    | some .blockEnd => some (p.skip.emit .sequenceEnd)
    | _ => none
  | .indentlessSequenceEntry =>
    match p.next? with
    | some .blockEntry =>
      let p := p.skip
      match p.next? with
      | some .blockEntry | some .key | some .value | some .blockEnd =>
        some (p.emptyThen .indentlessSequenceEntry)
      | _ => (p.goto .indentlessSequenceEntry).node handles true false
    | _ => some (p.emit .sequenceEnd)
  | .blockMappingKey =>
    match p.next? with
    | some .key =>
      let p := p.skip
      match p.next? with
      | some .key | some .value | some .blockEnd => some (p.emptyThen .blockMappingValue)
      | _ => (p.goto .blockMappingValue).node handles true true
    | some .blockEnd => some (p.skip.emit .mappingEnd)
    | _ => none
  | .blockMappingValue =>
    match p.next? with
    | some .value =>
      let p := p.skip
      match p.next? with
      | some .key | some .value | some .blockEnd => some (p.emptyThen .blockMappingKey)
      | _ => (p.goto .blockMappingKey).node handles true true
    | _ => some (p.emptyThen .blockMappingKey)
  | .flowSequenceFirst => p.flowSequenceItem handles
  | .flowSequenceEntry =>
    match p.next? with
    | some .flowSequenceEnd => some (p.skip.emit .sequenceEnd)
    | some .flowEntry => p.skip.flowSequenceItem handles
    | _ => none
  | .flowPairKey =>
    match p.next? with
    | some .value | some .flowEntry | some .flowSequenceEnd => some (p.skip.emptyThen .flowPairValue)
    | _ => (p.goto .flowPairValue).node handles false false
  | .flowPairValue =>
    match p.next? with
    | some .value =>
      let p := p.skip
      match p.next? with
      | some .flowEntry | some .flowSequenceEnd => some (p.emptyThen .flowPairEnd)
      | _ => (p.goto .flowPairEnd).node handles false false
    | _ => some (p.emptyThen .flowPairEnd)
  | .flowPairEnd => some ((p.goto .flowSequenceEntry).emit .mappingEnd)
  | .flowMappingFirst => p.flowMappingItem handles
  | .flowMappingKey =>
    match p.next? with
    | some .flowMappingEnd => some (p.skip.emit .mappingEnd)
    | some .flowEntry => p.skip.flowMappingItem handles
    | _ => none
  | .flowMappingValue =>
    match p.next? with
    | some .value =>
      let p := p.skip
      match p.next? with
      | some .flowEntry | some .flowMappingEnd => some (p.emptyThen .flowMappingKey)
      | _ => (p.goto .flowMappingKey).node handles false false
    | _ => some (p.emptyThen .flowMappingKey)
  | .flowMappingNoValue => some (p.emptyThen .flowMappingKey)

/-- Goes on until no place is left to go on from. -/
def run (handles : Handles) : Nat → Parser → Option Parser
  | 0, _ => none
  | fuel + 1, p =>
    match p.places with
    | [] => some p
    | place :: places =>
      match { p with places }.resume handles place with
      | none => none
      | some p => run handles fuel p

end Parser

/-- The directives before a document, and the tokens after them. -/
def takeDirectives : List Token → List Directive × List Token
  | .directive d :: rest =>
    let (ds, rest) := takeDirectives rest
    (d :: ds, rest)
  | rest => ([], rest)

/-- The handles that directives give on top of those before; a handle is given once. -/
def addHandles : List Directive → Handles → Option Handles
  | [], handles => some handles
  | .tag handle source :: rest, handles =>
    if (handles.lookup handle).isSome then none else addHandles rest ((handle, source) :: handles)
  | .version _ _ :: rest, handles => addHandles rest handles

/-- Whether a version is one that can be read. -/
def isKnownVersion : Directive → Bool
  | .version major minor => major == 1 && (minor == 1 || minor == 2)
  | .tag _ _ => true

/-- Whether a directive gives the version. -/
def isVersion : Directive → Bool
  | .version _ _ => true
  | .tag _ _ => false

/-- The handles of a document with the directives, unless these contradict each other. -/
def handlesOf? (ds : List Directive) : Option Handles :=
  if ds.all isKnownVersion && decide ((ds.filter isVersion).length ≤ 1) then
    (addHandles ds []).map (· ++ defaultHandles)
  else none

/-- Reads the content of a document; the fuel allows for several steps at each token. -/
def content? (handles : Handles) (tokens : List Token) : Option (List Event × List Token) := do
  let p ← Parser.run handles (8 * tokens.length + 8) { tokens, places := [.blockNode], events := [] }
  some (p.events.reverse, p.tokens)

/-- Reads the document at the beginning of the tokens. -/
def document? (tokens : List Token) : Option (List Event × List Token) :=
  match takeDirectives tokens with
  | ([], .documentStart :: rest) | (_ :: _, .documentStart :: rest) => do
    let handles ← handlesOf? (takeDirectives tokens).1
    match rest with
    | [] | .directive _ :: _ | .documentStart :: _ | .documentEnd :: _ => some ([.empty], rest)
    | _ => content? handles rest
  | ([], rest) => content? defaultHandles rest
  | _ => none

/-- The events of a text with these tokens; after its document there may be end markers only. -/
def ofTokens? (tokens : List Token) : Option (List Event) :=
  match tokens with
  | [] => some []
  | tokens => do
    let (events, rest) ← document? tokens
    if rest.all (· == .documentEnd) then some events else none

end Event

end MangaPress.Yaml
