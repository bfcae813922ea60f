/-
# UTF-8

`encode` writes every character of a text as one to four bytes. `decodeMarked` reads bytes from
left to right and marks with `none` each byte that is not part of a well-formed, shortest encoding
of a character; reading resumes at the next byte. `decode?` accepts only bytes without such marks.

Key definitions: `Text.encode`, `Text.decodeMarked`, `Text.decode?`, `Text.utf8Length`.
-/
import MangaPress.Text.Basic

namespace MangaPress.Text

/-- The bytes of one character. -/
def encodeChar (c : Char) : Bytes :=
  let n := c.toNat
  if n < 0x80 then [UInt8.ofNat n]
  else if n < 0x800 then [UInt8.ofNat (0xC0 + n / 64), UInt8.ofNat (0x80 + n % 64)]
  else if n < 0x10000 then
    [UInt8.ofNat (0xE0 + n / 4096), UInt8.ofNat (0x80 + n / 64 % 64), UInt8.ofNat (0x80 + n % 64)]
  else
    [UInt8.ofNat (0xF0 + n / 262144), UInt8.ofNat (0x80 + n / 4096 % 64),
      UInt8.ofNat (0x80 + n / 64 % 64), UInt8.ofNat (0x80 + n % 64)]

/-- The bytes of a text. -/
def encode (t : Text) : Bytes :=
  t.flatMap encodeChar

/-- The number of bytes of a text. -/
def utf8Length (t : Text) : Nat :=
  (encode t).length

/-- The six bits that a continuation byte carries. -/
def continuationBits? (b : UInt8) : Option Nat :=
  if 0x80 ≤ b.toNat ∧ b.toNat < 0xC0 then some (b.toNat - 0x80) else none

/-- The character with code `n`, if there is one and its encoding needs all the bytes it was read
from: `least` is the smallest code that does. -/
def charFrom? (least n : Nat) : Option Char :=
  if least ≤ n ∧ n.isValidChar then some (Char.ofNat n) else none

/-- The character that the bytes begin with, and how many of them it takes. -/
def decodeChar? : Bytes → Option (Char × Nat)
  | [] => none
  | b₀ :: rest =>
    let n₀ := b₀.toNat
    if n₀ < 0x80 then some (Char.ofNat n₀, 1)
    else if n₀ < 0xC0 then none
    else if n₀ < 0xE0 then
      match rest with
      | b₁ :: _ => do
        let x₁ ← continuationBits? b₁
        let c ← charFrom? 0x80 ((n₀ - 0xC0) * 64 + x₁)
        some (c, 2)
      | _ => none
    else if n₀ < 0xF0 then
      match rest with
      | b₁ :: b₂ :: _ => do
        let x₁ ← continuationBits? b₁
        let x₂ ← continuationBits? b₂
        let c ← charFrom? 0x800 (((n₀ - 0xE0) * 64 + x₁) * 64 + x₂)
        some (c, 3)
      | _ => none
    else if n₀ < 0xF8 then
      match rest with
      | b₁ :: b₂ :: b₃ :: _ => do
        let x₁ ← continuationBits? b₁
        let x₂ ← continuationBits? b₂
        let x₃ ← continuationBits? b₃
        let c ← charFrom? 0x10000 ((((n₀ - 0xF0) * 64 + x₁) * 64 + x₂) * 64 + x₃)
        some (c, 4)
      | _ => none
    else none

/-- The characters of the bytes, with `none` for each byte that belongs to no character. -/
def decodeMarked (bytes : Bytes) : List (Option Char) :=
  match bytes with
  | [] => []
  | b :: rest =>
    match decodeChar? (b :: rest) with
    | some (c, k) => some c :: decodeMarked (rest.drop (k - 1))
    | none => none :: decodeMarked rest
termination_by bytes.length
decreasing_by
  · simp only [List.length_drop, List.length_cons]
    omega
  · simp

/-- The text that the bytes encode, if they are well-formed. -/
def decode? (bytes : Bytes) : Option Text :=
  (decodeMarked bytes).mapM id

end MangaPress.Text
