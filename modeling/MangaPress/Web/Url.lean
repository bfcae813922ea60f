/-
# Addresses

`Url.parse?` reads an absolute `http` or `https` address as browsers do: white space around it and
tabs and line breaks in it do not count, backslashes are slashes, the path is freed of its single
and double dots, characters that must not stand in it are written as percent-encoded bytes, and the
fragment is dropped. The target of a request is the path with the query. `Url.join` reads a reference
as it is meant in the answer of a server: what it leaves out is that of the address that was asked.

Key definitions: `Url`, `Url.parse?`, `Url.target`, `Url.addPair`, `Url.join`.
-/
import MangaPress.Web.Form

namespace MangaPress.Web

/-- An address, with path and query as they are sent. The path is kept as its segments. -/
structure Url where
  secure : Bool := false
  authority : Text := []
  segments : List Text := []
  query : Option Text := none
deriving Repr, DecidableEq, Inhabited

namespace Url

/-- A slash of either kind. -/
def isSlash (c : Char) : Bool :=
  c == '/' || c == '\\'

/-- A control character or a space. -/
def isControlOrSpace (c : Char) : Bool :=
  decide (c.toNat ≤ 0x20)

/-- A tab or line break. -/
def isIgnored (c : Char) : Bool :=
  c == '\t' || c == '\n' || c == '\r'

/-- The characters that are percent-encoded in a path, those beyond ASCII apart. -/
def isEncodedInPath (c : Char) : Bool :=
  decide (c.toNat ≤ 0x20) || decide (0x7E < c.toNat) || "\"#<>?`\x7b\x7d".toList.contains c

/-- The characters that are percent-encoded in a query, those beyond ASCII apart. -/
def isEncodedInQuery (c : Char) : Bool :=
  decide (c.toNat ≤ 0x20) || decide (0x7E < c.toNat) || "\"#<>'".toList.contains c

/-- A text with the characters of a class percent-encoded. -/
def percentEncode (isEncoded : Char → Bool) (t : Text) : Text :=
  t.flatMap fun c => if isEncoded c then (Text.encodeChar c).flatMap percentByte else [c]

/-- The text in lower case, letters of ASCII only. -/
def asciiLower (t : Text) : Text :=
  t.map Char.toLower

/-- A segment that stands for the directory it is in. -/
def isSingleDot (segment : Text) : Bool :=
  asciiLower segment == ['.'] || asciiLower segment == "%2e".toList

/-- A segment that stands for the directory above. -/
def isDoubleDot (segment : Text) : Bool :=
  ["..", ".%2e", "%2e.", "%2e%2e"].any fun w => w.toList == asciiLower segment

/-- Pieces of a path between slashes of either kind. -/
def splitSlashes (t : Text) : List Text :=
  Text.splitOn '/' (t.map fun c => if c == '\\' then '/' else c)

/-- Adds segments to those read so far, which are in reverse order; dots are resolved, and where
they end the path an empty segment stands for the directory. -/
def resolveSegments : List Text → List Text → List Text
  | read, [] => read.reverse
  | read, segment :: rest =>
    if isDoubleDot segment then
      resolveSegments (if rest.isEmpty then [] :: read.tail else read.tail) rest
    else if isSingleDot segment then
      resolveSegments (if rest.isEmpty then [] :: read else read) rest
    else resolveSegments (percentEncode isEncodedInPath segment :: read) rest

/-- The text after the scheme, and whether the scheme is the secure one. -/
def stripScheme? (t : Text) : Option (Bool × Text) :=
  match Text.splitOnce ':' t with
  | none => none
  | some (scheme, rest) =>
    if asciiLower scheme = "http".toList then some (false, rest)
    else if asciiLower scheme = "https".toList then some (true, rest)
    else none

/-- The characters that no host may hold. -/
def isForbiddenInHost (c : Char) : Bool :=
  decide (c.toNat ≤ 0x20) || c.toNat == 0x7F || "#/<>?@\\^|%".toList.contains c

/-- Whether a port is a number in its range, or left out. -/
def isPort (t : Text) : Bool :=
  t.isEmpty || ((Text.toNat? t).any fun n => decide (n < 65536))

/-- Whether a host, perhaps with a port, can be connected to. -/
def isHost (t : Text) : Bool :=
  match t with
  | '[' :: rest =>
    match Text.splitOnce ']' rest with
    | some (address, []) => !address.isEmpty
    | some (address, ':' :: port) => !address.isEmpty && isPort port
    | _ => false
  | t =>
    let (host, port) := (Text.splitOnce ':' t).getD (t, [])
    !host.isEmpty && !host.any isForbiddenInHost && isPort port

/-- The part of an authority after user name and password. -/
def hostPart (t : Text) : Text :=
  ((Text.splitOn '@' t).getLast?).getD []

/-- A text without white space around it and without tabs and line breaks. -/
def cleaned (t : Text) : Text :=
  (Text.dropOuterWhile isControlOrSpace t).filter fun c => !isIgnored c

/-- Reads an address. -/
def parse? (t : Text) : Option Url := do
  let t := cleaned t
  let (secure, rest) ← stripScheme? t
  let rest := rest.dropWhile isSlash
  let isEnd (c : Char) : Bool := isSlash c || c == '?' || c == '#'
  let authority := rest.takeWhile fun c => !isEnd c
  let rest := rest.dropWhile fun c => !isEnd c
  let beforeFragment := rest.takeWhile (· != '#')
  let path := beforeFragment.takeWhile (· != '?')
  let query :=
    match beforeFragment.dropWhile (· != '?') with
    | '?' :: query => some (percentEncode isEncodedInQuery query)
    | _ => none
  let host := hostPart authority
  if isHost host then
    some { secure, authority := host, segments := resolveSegments [] (splitSlashes (path.drop 1)), query }
  else none

/-- The path of the address. -/
def path (u : Url) : Text :=
  u.segments.flatMap ('/' :: ·)

/-- What a request to the address names as its target. -/
def target (u : Url) : Text :=
  match u.query with
  | none => u.path
  | some query => u.path ++ '?' :: query

/-- The address with one more pair in its query. -/
def addPair (u : Url) (name value : Text) : Url :=
  let pair := Form.pair name value
  match u.query with
  | none | some [] => { u with query := some pair }
  | some query => { u with query := some (query ++ '&' :: pair) }

/-! ### References -/

/-- What a reference is, read against an address. -/
inductive Resolved where
  | address (u : Url)
  /-- An address that is neither `http` nor `https`. -/
  | foreign
  | unreadable
deriving Repr, DecidableEq

/-- The address of a text. -/
def resolved (t : Text) : Resolved :=
  match parse? t with
  | some u => .address u
  | none => .unreadable

/-- The name of the address's scheme. -/
def scheme (u : Url) : Text :=
  if u.secure then "https" else "http"

/-- The scheme that a reference begins with, in lower case, and what follows it. -/
def splitScheme? (t : Text) : Option (Text × Text) :=
  match Text.splitOnce ':' t with
  | some (c :: name, rest) =>
    if c.isAlpha && name.all fun d => d.isAlphanum || "+-.".toList.contains d then
      some (asciiLower (c :: name), rest)
    else none
  | _ => none

/-- Reads a reference without a scheme. -/
def joinRelative (u : Url) (t : Text) : Resolved :=
  let server := u.scheme ++ "://" ++ u.authority
  match t with
  | [] | '#' :: _ => .address u
  | '?' :: _ => resolved (server ++ u.path ++ t)
  | c :: rest =>
    if !isSlash c then resolved (server ++ u.segments.dropLast.flatMap ('/' :: ·) ++ '/' :: t)
    else if rest.head?.any isSlash then resolved (u.scheme ++ ':' :: t)
    else resolved (server ++ t)

/-- Reads a reference against the address. -/
def join (u : Url) (reference : Text) : Resolved :=
  let t := cleaned reference
  match splitScheme? t with
  | none => u.joinRelative t
  | some (scheme, rest) =>
    let slashes := (rest.takeWhile isSlash).length
    if scheme = u.scheme ∧ slashes < 2 then u.joinRelative rest
    else if scheme = "http".toList ∨ scheme = "https".toList then resolved t
    else if 2 ≤ slashes then .foreign
    else .unreadable

end Url

end MangaPress.Web
