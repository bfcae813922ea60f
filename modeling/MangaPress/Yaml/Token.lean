/-
# Tokens

`Token.scan` cuts a text into the tokens of YAML. Indentation becomes tokens of its own: a block
collection opens where its first entry is indented further than the block around it, and closes
where a line is indented less.

A key of a mapping need not be marked. Where a scalar, alias, anchor, tag or flow collection may
be such a simple key, its place is noted (`SimpleKey`), and when a colon follows in time, on the
same line and within 1024 characters, the key token is put in at that place afterwards. A noted
place is required to become a key if it stands at the very indentation of its block mapping.

Key definitions: `Token`, `Scanner`, `Token.scan`.
-/
import MangaPress.Yaml.Directive
import MangaPress.Yaml.Plain
import MangaPress.Yaml.Quoted

namespace MangaPress.Yaml

/-- The tokens of YAML. -/
inductive Token where
  | directive (d : Directive)
  | documentStart
  | documentEnd
  | blockSequenceStart
  | blockMappingStart
  | blockEnd
  | flowSequenceStart
  | flowSequenceEnd
  | flowMappingStart
  | flowMappingEnd
  | blockEntry
  | flowEntry
  | key
  | value
  | alias (name : Text)
  | anchor (name : Text)
  | tag (t : Tag.Written)
  | scalar (text : Text) (plain : Bool)
deriving Repr, DecidableEq, Inhabited

/-- The place of a token that may turn out to be a key. -/
structure SimpleKey where
  required : Bool
  position : Nat
  line : Nat
  column : Nat
  index : Nat
deriving Repr, DecidableEq, Inhabited

/-- The most characters from the beginning of a simple key to its colon. -/
def simpleKeyReach : Nat := 1024

/-- What a scanner has found and keeps in mind: the tokens so far, the indentation of the open
blocks (the innermost first, `-1` outside of all), the possible simple key of each open flow
collection (the innermost first) and of the block around them, and whether a simple key may begin
here. -/
structure Scanner where
  tokens : Array Token := #[]
  indent : Int := -1
  outerIndents : List Int := []
  simpleKey : Option SimpleKey := none
  outerKeys : List (Option SimpleKey) := []
  keyAllowed : Bool := true
deriving Repr, Inhabited

namespace Scanner

/-- Whether a flow collection is open. -/
def inFlow (s : Scanner) : Bool :=
  !s.outerKeys.isEmpty

/-- One more token. -/
def push (t : Token) (s : Scanner) : Scanner :=
  { s with tokens := s.tokens.push t }

/-- One more token at an earlier place. -/
def insert (position : Nat) (t : Token) (s : Scanner) : Scanner :=
  { s with tokens := s.tokens.insertIdxIfInBounds position t }

/-- Sets whether a simple key may begin here. -/
def allowKey (allowed : Bool) (s : Scanner) : Scanner :=
  { s with keyAllowed := allowed }

/-- Whether a noted place is too far back to become a key. -/
def isStale (here : Glyph) (k : SimpleKey) : Bool :=
  decide (k.line < here.line) || decide (k.index + simpleKeyReach < here.index)

/-- Gives up a noted place that is too far back; it must not be a required one. -/
def dropStale (here : Glyph) : Option SimpleKey → Option (Option SimpleKey)
  | none => some none
  | some k =>
    if isStale here k then
      if k.required then none else some none
    else some (some k)

/-- Gives up all noted places that are too far back. -/
def dropStaleKeys (here : Glyph) (s : Scanner) : Option Scanner := do
  let simpleKey ← dropStale here s.simpleKey
  let outerKeys ← s.outerKeys.mapM (dropStale here)
  some { s with simpleKey, outerKeys }

/-- Gives up the innermost noted place; it must not be a required one. -/
def dropKey (s : Scanner) : Option Scanner :=
  match s.simpleKey with
  | some k => if k.required then none else some { s with simpleKey := none }
  | none => some s

/-- Notes that the next token may be a simple key, if one may begin here. -/
def noteKey (here : Glyph) (s : Scanner) : Option Scanner :=
  if s.keyAllowed then do
    let s ← s.dropKey
    some { s with
      simpleKey := some {
        required := !s.inFlow && decide (s.indent = here.column)
        position := s.tokens.size
        line := here.line
        column := here.column
        index := here.index } }
  else some s

/-- Opens a block whose entries stand at the column, if they are indented further than the block
around them. Its token goes to the position, or to the end if there is none. -/
def openBlock (column : Nat) (t : Token) (position : Option Nat) (s : Scanner) : Scanner :=
  if s.inFlow || decide ((column : Int) ≤ s.indent) then s
  else
    let s := { s with indent := column, outerIndents := s.indent :: s.outerIndents }
    match position with
    | some p => s.insert p t
    | none => s.push t

/-- Closes the blocks, innermost first, that are indented further than the column. -/
def closeBlocksFrom (column : Int) (tokens : Array Token) (indent : Int) :
    List Int → Array Token × Int × List Int
  | [] => (tokens, indent, [])
  | outer :: rest =>
    if column < indent then closeBlocksFrom column (tokens.push .blockEnd) outer rest
    else (tokens, indent, outer :: rest)

/-- Closes the blocks that are indented further than the column. -/
def closeBlocks (column : Int) (s : Scanner) : Scanner :=
  if s.inFlow then s
  else
    let (tokens, indent, outerIndents) := closeBlocksFrom column s.tokens s.indent s.outerIndents
    { s with tokens, indent, outerIndents }

/-- Opens a flow collection. -/
def openFlow (here : Glyph) (t : Token) (s : Scanner) : Option Scanner := do
  let s ← s.noteKey here
  some ({ s with simpleKey := none, outerKeys := s.simpleKey :: s.outerKeys, keyAllowed := true }.push t)

/-- Closes a flow collection. -/
def closeFlow (t : Token) (s : Scanner) : Option Scanner := do
  let s ← s.dropKey
  let s : Scanner :=
    match s.outerKeys with
    | [] => s
    | k :: rest => { s with simpleKey := k, outerKeys := rest }
  some ((s.allowKey false).push t)

/-- Ends everything that is open at a directive, a document marker or the end of the text. -/
def breakOff (s : Scanner) : Option Scanner := do
  let s ← (s.closeBlocks (-1)).dropKey
  some (s.allowKey false)

/-- An entry of a block sequence, or a question mark before a key of a block mapping: opens the
block if need be. -/
def enterBlock (here : Glyph) (t : Token) (s : Scanner) : Option Scanner :=
  if s.inFlow then some s
  else if s.keyAllowed then some (s.openBlock here.column t none)
  else none

/-- A colon: turns the noted place into a key, or begins the value of a key marked before. -/
def addValue (here : Glyph) (s : Scanner) : Option Scanner :=
  match s.simpleKey with
  | some k =>
    let s := (s.insert k.position .key).openBlock k.column .blockMappingStart (some k.position)
    some ({ s with simpleKey := none, keyAllowed := false }.push .value)
  | none => do
    let s ← s.enterBlock here .blockMappingStart
    some ((s.allowKey !s.inFlow).push .value)

/-- A token that may be a simple key. -/
def pushKeyCandidate (here : Glyph) (t : Token) (s : Scanner) : Option Scanner := do
  let s ← s.noteKey here
  some ((s.allowKey false).push t)

end Scanner

namespace Token

/-- Passes over spaces, line breaks and comments, and over tabs where they cannot be taken for
indentation; gives the next glyphs and whether a simple key may begin there. -/
def skipSpace (flow : Bool) (inComment keyAllowed : Bool) : List Glyph → List Glyph × Bool
  | [] => ([], keyAllowed)
  | g :: rest =>
    if isBreak g.char then skipSpace flow false (keyAllowed || !flow) rest
    else if inComment then
      if isEnd g.char then (g :: rest, keyAllowed) else skipSpace flow true keyAllowed rest
    else if g.char == ' ' || (g.char == '\t' && (flow || !keyAllowed)) ||
        (g.char == byteOrderMark && g.index == 0) then
      skipSpace flow false keyAllowed rest
    else if g.char == '#' then skipSpace flow true keyAllowed rest
    else (g :: rest, keyAllowed)

/-- The indicators that no plain scalar begins with. -/
def isIndicator (c : Char) : Bool :=
  "-?:,[]\x7b\x7d#&*!|>'\"%@`".toList.contains c

/-- Whether a plain scalar begins here. -/
def beginsPlain (flow : Bool) (gs : List Glyph) : Bool :=
  let c := peek gs
  let next := peekAt gs 1
  (!isBlankOrEnd c && !isIndicator c) || (c == '-' && !isBlank next) ||
    (!flow && (c == '?' || c == ':') && !isBlankOrEnd next)

/-- Scans the name of an anchor or alias. -/
def scanName (gs : List Glyph) : Option (Text × List Glyph) :=
  let name := textWhile isNameChar gs
  let gs := skipWhile isNameChar gs
  let next := peek gs
  if !name.isEmpty && (isBlankOrEnd next || "?:,]\x7d%@`".toList.contains next) then some (name, gs)
  else none

/-- Scans the token that begins with the glyph `here`. -/
def scanOne (here : Glyph) (rest : List Glyph) (s : Scanner) : Option (Scanner × List Glyph) :=
  let gs := here :: rest
  let c := here.char
  let next := peek rest
  let flow := s.inFlow
  if here.column == 0 && c == '%' then do
    let s ← s.breakOff
    let (d, gs) ← Directive.scan rest
    some (s.push (.directive d), gs)
  else if isMarker '-' gs then do
    let s ← s.breakOff
    some (s.push .documentStart, gs.drop 3)
  else if isMarker '.' gs then do
    let s ← s.breakOff
    some (s.push .documentEnd, gs.drop 3)
  else if c == '[' then do
    some (← s.openFlow here .flowSequenceStart, rest)
  else if c == '\x7b' then do
    some (← s.openFlow here .flowMappingStart, rest)
  else if c == ']' then do
    some (← s.closeFlow .flowSequenceEnd, rest)
  else if c == '\x7d' then do
    some (← s.closeFlow .flowMappingEnd, rest)
  else if c == ',' then do
    let s ← s.dropKey
    some ((s.allowKey true).push .flowEntry, rest)
  else if c == '-' && isBlankOrEnd next then do
    let s ← (← s.enterBlock here .blockSequenceStart).dropKey
    some ((s.allowKey true).push .blockEntry, rest)
  else if c == '?' && (flow || isBlankOrEnd next) then do
    let s ← (← s.enterBlock here .blockMappingStart).dropKey
    some ((s.allowKey !flow).push .key, rest)
  else if c == ':' && (flow || isBlankOrEnd next) then do
    some (← s.addValue here, rest)
  else if c == '*' then do
    let (name, gs) ← scanName rest
    some (← s.pushKeyCandidate here (.alias name), gs)
  else if c == '&' then do
    let (name, gs) ← scanName rest
    some (← s.pushKeyCandidate here (.anchor name), gs)
  else if c == '!' then do
    let (t, gs) ← Tag.scan flow gs
    some (← s.pushKeyCandidate here (.tag t), gs)
  else if (c == '|' || c == '>') && !flow then do
    let s ← s.dropKey
    let (text, gs) ← Block.scan (c == '|') s.indent rest
    some ((s.allowKey true).push (.scalar text false), gs)
  else if c == '\'' || c == '"' then do
    let (text, gs) ← Quoted.scan (c == '\'') rest
    some (← s.pushKeyCandidate here (.scalar text false), gs)
  else if beginsPlain flow gs then do
    let scanned ← Plain.scan flow (s.indent + 1) gs
    let s ← s.pushKeyCandidate here (.scalar scanned.text true)
    some (s.allowKey scanned.newLine, scanned.rest)
  else none

/-- Scans up to the end; the fuel bounds the number of tokens that stand in the text. -/
def scanFrom : Nat → Scanner → List Glyph → Option (Array Token)
  | 0, _, _ => none
  | fuel + 1, s, gs =>
    match skipSpace s.inFlow false s.keyAllowed gs with
    | ([], _) => none
    | (here :: rest, keyAllowed) => do
      let s ← (s.allowKey keyAllowed).dropStaleKeys here
      let s := s.closeBlocks here.column
      if isEnd here.char then
        let s ← s.breakOff
        some s.tokens
      else
        let (s, gs) ← scanOne here rest s
        scanFrom fuel s gs

/-- The tokens of a text. Each of them takes a character, and the closing glyph gives one more
round. -/
def scan (t : Text) : Option (List Token) := do
  let gs ← Glyph.ofText? t
  (scanFrom gs.length {} gs).map Array.toList

end Token

end MangaPress.Yaml
