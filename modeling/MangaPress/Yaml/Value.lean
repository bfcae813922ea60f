/-
# YAML values

A `Yaml.Value` is what a document says once anchors and aliases are resolved: scalars by type,
sequences, mappings in document order, and values under a local tag. `untag` looks through local
tags. `same` is equality of values as mapping keys see it: mappings are compared without regard to
order, and a NaN is the same as any other NaN.

Key definitions: `Yaml.Value`, `Value.untag`, `Value.get?`, `Value.same`.
-/
import MangaPress.Text.Basic
import MangaPress.Decimal.Double

namespace MangaPress.Yaml

/-- The content of a document. -/
inductive Value where
  | null
  | bool (b : Bool)
  | int (n : Int)
  | float (x : Double)
  | string (t : Text)
  | sequence (items : List Value)
  | mapping (entries : List (Value × Value))
  | tagged (tag : Text) (value : Value)
deriving Repr, Inhabited

namespace Value

/-- The value under any local tags. -/
def untag : Value → Value
  | tagged _ v => v.untag
  | v => v

/-- Whether the value is null, with or without a tag. -/
def isNull (v : Value) : Bool :=
  match v.untag with
  | null => true
  | _ => false

/-- The value of the entry whose key is the given string. -/
def lookup? (key : Text) : List (Value × Value) → Option Value
  | [] => none
  | (string k, v) :: rest => if k = key then some v else lookup? key rest
  | _ :: rest => lookup? key rest

/-- The value under the given string in a mapping, looking through its tag. -/
def get? (v : Value) (key : Text) : Option Value :=
  match v.untag with
  | mapping entries => lookup? key entries
  | _ => none

/-- The items of a sequence, looking through its tag. -/
def items? (v : Value) : Option (List Value) :=
  match v.untag with
  | sequence items => some items
  | _ => none

mutual

/-- Whether a tag occurs in the value. -/
def hasTag : Value → Bool
  | tagged _ _ => true
  | sequence items => anyTag items
  | mapping entries => anyTagEntry entries
  | _ => false

/-- Whether a tag occurs in one of the values. -/
def anyTag : List Value → Bool
  | [] => false
  | v :: rest => hasTag v || anyTag rest

/-- Whether a tag occurs in a key or value of the entries. -/
def anyTagEntry : List (Value × Value) → Bool
  | [] => false
  | (k, v) :: rest => hasTag k || hasTag v || anyTagEntry rest

end

mutual

/-- Whether two values are the same as mapping keys. -/
def same : Value → Value → Bool
  | null, null => true
  | bool a, bool b => a == b
  | int a, int b => a == b
  | float a, float b => a.sameNumber b
  | string a, string b => a == b
  | sequence a, sequence b => sameItems a b
  | mapping a, mapping b => a.length == b.length && sameEntries a b
  | tagged t a, tagged u b => t == u && same a b
  | _, _ => false

/-- Whether two lists hold the same values in the same order. -/
def sameItems : List Value → List Value → Bool
  | [], [] => true
  | a :: as, b :: bs => same a b && sameItems as bs
  | _, _ => false

/-- Whether each entry occurs among the others. -/
def sameEntries : List (Value × Value) → List (Value × Value) → Bool
  | [], _ => true
  | (k, v) :: rest, others => sameEntry k v others && sameEntries rest others

/-- Whether an entry with this key and value occurs among the others. -/
def sameEntry (k v : Value) : List (Value × Value) → Bool
  | [] => false
  | (k', v') :: rest => (same k k' && same v v') || sameEntry k v rest

end

/-- Whether the entries hold the key. -/
def hasKey (key : Value) (entries : List (Value × Value)) : Bool :=
  entries.any fun entry => same key entry.1

end Value

end MangaPress.Yaml
