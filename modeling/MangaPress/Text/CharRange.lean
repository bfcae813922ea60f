/-
# Ranges of characters

A class of characters in the Unicode character database is a list of ranges of code points.
-/

namespace MangaPress.Text

/-- The characters whose codes lie between `first` and `last`, both included. -/
structure CharRange where
  first : Nat
  last : Nat
deriving Repr, DecidableEq

/-- Whether the range holds the character. -/
def CharRange.contains (r : CharRange) (c : Char) : Bool :=
  decide (r.first ≤ c.toNat) && decide (c.toNat ≤ r.last)

end MangaPress.Text
