/-
# Base64

The standard alphabet with padding. `encode` writes three bytes as four characters and pads the
last group; `decode?` is strict: it accepts exactly what `encode` writes, so no missing or extra
padding, no foreign characters and no non-zero bits after the last byte.

Key definitions: `Base64.encode`, `Base64.decode?`.
-/
import MangaPress.Text.Basic

namespace MangaPress.Base64

/-- The sixty-four characters, each at the place of its value. -/
def alphabet : Text :=
  "ABCDEFGHIJKLMNOPQRSTUVWXYZabcdefghijklmnopqrstuvwxyz0123456789+/"

/-- The character for a value below sixty-four. -/
def charOf (n : Nat) : Char :=
  if n < 26 then Char.ofNat (0x41 + n)
  else if n < 52 then Char.ofNat (0x61 + (n - 26))
  else if n < 62 then Char.ofNat (0x30 + (n - 52))
  else if n = 62 then '+'
  else '/'

/-- The value of a character of the alphabet. -/
def valueOf? (c : Char) : Option Nat :=
  if 'A' ≤ c ∧ c ≤ 'Z' then some (c.toNat - 0x41)
  else if 'a' ≤ c ∧ c ≤ 'z' then some (c.toNat - 0x61 + 26)
  else if '0' ≤ c ∧ c ≤ '9' then some (c.toNat - 0x30 + 52)
  else if c = '+' then some 62
  else if c = '/' then some 63
  else none

/-- The padded text of a byte string. -/
def encode : Bytes → Text
  | [] => []
  | [a] =>
    let n := a.toNat * 16
    [charOf (n / 64), charOf (n % 64), '=', '=']
  | [a, b] =>
    let n := (a.toNat * 256 + b.toNat) * 4
    [charOf (n / 4096), charOf (n / 64 % 64), charOf (n % 64), '=']
  | a :: b :: c :: rest =>
    let n := (a.toNat * 256 + b.toNat) * 256 + c.toNat
    charOf (n / 262144) :: charOf (n / 4096 % 64) :: charOf (n / 64 % 64) :: charOf (n % 64) ::
      encode rest

/-- The bytes of a group of four characters, the last of the text if `last` holds; only there may
it be padded. -/
def decodeGroup? (last : Bool) (c₀ c₁ c₂ c₃ : Char) : Option Bytes := do
  let x₀ ← valueOf? c₀
  let x₁ ← valueOf? c₁
  if last ∧ c₃ = '=' then
    if c₂ = '=' then
      let n := x₀ * 64 + x₁
      if n % 16 = 0 then some [UInt8.ofNat (n / 16)] else none
    else
      let x₂ ← valueOf? c₂
      let n := (x₀ * 64 + x₁) * 64 + x₂
      if n % 4 = 0 then some [UInt8.ofNat (n / 1024), UInt8.ofNat (n / 4 % 256)] else none
  else
    let x₂ ← valueOf? c₂
    let x₃ ← valueOf? c₃
    let n := ((x₀ * 64 + x₁) * 64 + x₂) * 64 + x₃
    some [UInt8.ofNat (n / 65536), UInt8.ofNat (n / 256 % 256), UInt8.ofNat (n % 256)]

/-- The byte string that a padded text stands for. -/
def decode? : Text → Option Bytes
  | [] => some []
  | c₀ :: c₁ :: c₂ :: c₃ :: rest => do
    let bytes ← decodeGroup? rest.isEmpty c₀ c₁ c₂ c₃
    let more ← decode? rest
    some (bytes ++ more)
  | _ => none

example : charOf 0 = 'A' ∧ (List.range 64).map charOf = alphabet := by decide

end MangaPress.Base64
