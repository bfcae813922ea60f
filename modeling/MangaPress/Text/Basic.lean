/-
# Texts

A `Text` is a list of characters, and a byte string a list of bytes, so that every reader and
writer of this library is a recursion on lists. This module holds the operations on texts that
more than one format needs: joining with a separator, splitting at the first or at every
occurrence of a character, removing ends, and replacing a suffix.

Key definitions: `Text`, `Bytes`, `Text.joinWith`, `Text.splitOnce`, `Text.dropEndWhile`,
`Text.stripEnd?`.
-/

namespace MangaPress

/-- A text: its characters in order. -/
abbrev Text := List Char

/-- The content of a file or of a message body. -/
abbrev Bytes := List UInt8

instance : Coe String Text := ⟨String.toList⟩

namespace Text

/-- The texts in order, with `separator` between neighbours. -/
def joinWith (separator : Text) : List Text → Text
  | [] => []
  | [t] => t
  | t :: ts => t ++ separator ++ joinWith separator ts

/-- The parts before and after the first `c`, if there is one. -/
def splitOnce (c : Char) : Text → Option (Text × Text)
  | [] => none
  | d :: rest =>
    if d = c then some ([], rest)
    else (splitOnce c rest).map fun (before, after) => (d :: before, after)

/-- The pieces between the occurrences of `c`; a text without `c` is one piece. -/
def splitOn (c : Char) : Text → List Text
  | [] => [[]]
  | d :: rest =>
    if d = c then [] :: splitOn c rest
    else
      match splitOn c rest with
      | [] => [[d]]
      | piece :: pieces => (d :: piece) :: pieces

/-- The text without its longest end of characters that satisfy `p`. -/
def dropEndWhile (p : Char → Bool) : Text → Text
  | [] => []
  | c :: rest =>
    match dropEndWhile p rest with
    | [] => if p c then [] else [c]
    | d :: ds => c :: d :: ds

/-- The text without the characters that satisfy `p` at its two ends. -/
def dropOuterWhile (p : Char → Bool) (t : Text) : Text :=
  dropEndWhile p (t.dropWhile p)

/-- What stands before `ending`, if the text ends with it. -/
def stripEnd? (ending : Text) (t : Text) : Option Text :=
  if ending.isSuffixOf t then some (t.take (t.length - ending.length)) else none

/-- The text itself, or `fallback` where it is absent or empty. -/
def orElse (t : Option Text) (fallback : Text) : Text :=
  match t with
  | none => fallback
  | some t => if t.isEmpty then fallback else t

theorem joinWith_cons_cons (separator t u : Text) (ts : List Text) :
    joinWith separator (t :: u :: ts) = t ++ separator ++ joinWith separator (u :: ts) := rfl

@[simp]
theorem orElse_some_cons (c : Char) (t fallback : Text) :
    orElse (some (c :: t)) fallback = c :: t := rfl

/-- Splitting loses nothing but the character it splits at. -/
theorem splitOnce_eq_some {c : Char} {t before after : Text}
    (h : splitOnce c t = some (before, after)) : t = before ++ c :: after := by
  induction t generalizing before with
  | nil => simp [splitOnce] at h
  | cons d rest ih =>
    unfold splitOnce at h
    split at h
    · simp_all
    · simp only [Option.map_eq_some_iff, Prod.mk.injEq, Prod.exists] at h
      obtain ⟨b, a, hs, rfl, rfl⟩ := h
      simp [ih hs]

end Text

end MangaPress
