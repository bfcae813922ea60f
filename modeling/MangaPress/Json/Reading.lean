/-
# What a JSON source says

A `Reading` is the value at the beginning of a source as far as it can be read. Where the source
stops being JSON, the open arrays and objects are kept with what they hold up to there, marked as
not closed, and a missing value is `broken`. A reader that walks a reading in document order
therefore meets a wrong type before a later fault in the syntax, and the other way round, exactly
as they stand in the source.

Key definitions: `Reading`, `Step.of`, `Reading.readTokens`, `Reading.wellFormed`, `Document`.
-/
import MangaPress.Json.Token

namespace MangaPress.Json

/-- A value as far as it can be read. A string, or the key of a member, without text is one that
holds an undecodable part. -/
inductive Reading where
  | null
  | bool (b : Bool)
  | number (spelling : Text)
  | string (content : Option Text)
  | array (items : List Reading) (closed : Bool)
  | object (members : List (Option Text × Reading)) (closed : Bool)
  | broken
deriving Repr, Inhabited

/-- An array or object that is still open, its parts in reverse order. -/
inductive Frame where
  | array (items : List Reading)
  | object (members : List (Option Text × Reading))
  | member (members : List (Option Text × Reading)) (key : Option Text)
deriving Repr, Inhabited

/-- What may stand next. -/
inductive Place where
  /-- A value. -/
  | value
  /-- The first item of an array, or its end. -/
  | firstItem
  /-- The first key of an object, or its end. -/
  | firstKey
  /-- A key. -/
  | key
  /-- The colon after a key. -/
  | colon
  /-- A comma, or the end of the innermost frame. -/
  | after
deriving Repr, DecidableEq, Inhabited

namespace Frame

/-- The frame with one more part. -/
def add (r : Reading) : Frame → Frame
  | array items => array (r :: items)
  | object members => object members
  | member members key => object ((key, r) :: members)

/-- The value of a frame. -/
def toReading (closed : Bool) : Frame → Reading
  | array items => .array items.reverse closed
  | object members => .object members.reverse closed
  | member members key => .object ((key, .broken) :: members).reverse closed

/-- What the open frames, innermost first, hold when reading stops. -/
def abandon : List Frame → Reading
  | [] => .broken
  | [frame] => frame.toReading false
  | frame :: outer :: rest => abandon (outer.add (frame.toReading false) :: rest)
termination_by frames => frames.length

end Frame

/-- What a token leads to. -/
inductive Step where
  /-- Reading goes on at the place inside the frames. -/
  | goOn (place : Place) (frames : List Frame)
  /-- The outermost value is complete. -/
  | complete (r : Reading)
  /-- The token must not stand here. -/
  | fault
deriving Repr, Inhabited

namespace Step

/-- A value is complete inside the frames. -/
def value (r : Reading) : List Frame → Step
  | [] => complete r
  | frame :: rest => goOn .after (frame.add r :: rest)

/-- The innermost frame is closed. -/
def close : List Frame → Step
  | [] => fault
  | frame :: rest => value (frame.toReading true) rest

/-- What a token leads to at a place inside open frames, innermost first. -/
def of (place : Place) (t : Token) (frames : List Frame) : Step :=
  match place, t, frames with
  | .value, .null, _ | .firstItem, .null, _ => value .null frames
  | .value, .bool b, _ | .firstItem, .bool b, _ => value (.bool b) frames
  | .value, .number n, _ | .firstItem, .number n, _ => value (.number n) frames
  | .value, .string s, _ | .firstItem, .string s, _ => value (.string s) frames
  | .value, .openArray, _ | .firstItem, .openArray, _ => goOn .firstItem (.array [] :: frames)
  | .value, .openObject, _ | .firstItem, .openObject, _ => goOn .firstKey (.object [] :: frames)
  | .firstItem, .closeArray, _ => close frames
  | .firstKey, .closeObject, _ => close frames
  | .firstKey, .string s, .object members :: rest | .key, .string s, .object members :: rest =>
    goOn .colon (.member members s :: rest)
  | .colon, .colon, _ => goOn .value frames
  | .after, .comma, .array _ :: _ => goOn .value frames
  | .after, .comma, .object _ :: _ => goOn .key frames
  | .after, .closeArray, .array _ :: _ => close frames
  | .after, .closeObject, .object _ :: _ => close frames
  | _, _, _ => fault

end Step

namespace Reading

/-- Reads tokens at a place inside open frames, innermost first; gives the value and the tokens
after it. -/
def readTokens : List Token → Place → List Frame → Reading × List Token
  | [], _, frames => (Frame.abandon frames, [])
  | t :: ts, place, frames =>
    match Step.of place t frames with
    | .goOn place frames => readTokens ts place frames
    | .complete r => (r, ts)
    | .fault => (Frame.abandon frames, t :: ts)

mutual

/-- Whether the value was read to its end. The text of a string does not matter. -/
def wellFormed : Reading → Bool
  | array items closed => allWellFormed items && closed
  | object members closed => allMembersWellFormed members && closed
  | broken => false
  | _ => true

/-- Whether all items were read to their end. -/
def allWellFormed : List Reading → Bool
  | [] => true
  | r :: rest => wellFormed r && allWellFormed rest

/-- Whether the values of all members were read to their end. -/
def allMembersWellFormed : List (Option Text × Reading) → Bool
  | [] => true
  | (_, r) :: rest => wellFormed r && allMembersWellFormed rest

end

end Reading

/-- The value at the beginning of a source, and whether nothing but white space follows it. -/
structure Document where
  value : Reading
  complete : Bool
deriving Repr, Inhabited

/-- What a source says. -/
def Document.ofSource (s : Source) : Document :=
  let (value, rest) := Reading.readTokens (Token.scan s) .value []
  { value, complete := rest.isEmpty }

end MangaPress.Json
