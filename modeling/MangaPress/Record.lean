/-
# Records and their fields

A `Record` lists the fields of a record in their declared order. A field is found by its name or
by one of its other names, and reads its part of the input into the record under construction.
Both spellings of a field count as the same field: it may be given once.

`readNamed` reads the entries of a map in the order in which they stand, so the first problem on
the way is the one reported; fields that are missing are reported last, in declared order. Entries
with an unknown key are left to `skip`. `readListed` reads a list by position.

Key definitions: `Record`, `Field`, `Record.field?`, `Record.readNamed`, `Record.readListed`.
-/
import MangaPress.Text.Basic

namespace MangaPress

/-- When a field may be missing. -/
inductive Presence where
  /-- It may not. -/
  | required
  /-- From a map it may, from a list it may not. -/
  | byName
  /-- Always. -/
  | optional
deriving Repr, DecidableEq

/-- One field of a record of type `σ`, read from a `ρ`. -/
structure Field (ρ ε σ : Type) where
  name : Text
  otherNames : List Text := []
  presence : Presence := .optional
  read : ρ → σ → Except ε σ

/-- The fields of a record in declared order, and the record before any of them is read. -/
structure Record (ρ ε σ : Type) where
  blank : σ
  fields : List (Field ρ ε σ)

/-- What is wrong with the set of fields given. -/
inductive FieldProblem where
  | missing (name : Text)
  | duplicate (name : Text)
  | surplus
deriving Repr, DecidableEq

namespace Record

variable {ρ ε σ : Type}

/-- The field that goes by the name. -/
def field? (r : Record ρ ε σ) (key : Text) : Option (Field ρ ε σ) :=
  r.fields.find? fun f => f.name == key || f.otherNames.contains key

/-- The first field that has to be given by name and is not among those seen. -/
def firstMissing? (r : Record ρ ε σ) (seen : List Text) : Option (Field ρ ε σ) :=
  r.fields.find? fun f => decide (f.presence = .required) && !seen.contains f.name

/-- Reads the entries of a map on top of what was read so far. The key of an entry is looked at
before anything else, then whether its field was seen, then its value. -/
def readEntries {κ : Type} (r : Record ρ ε σ) (problem : FieldProblem → ε)
    (key : κ → Except ε Text) (skip : ρ → Except ε Unit) :
    List (κ × ρ) → List Text → σ → Except ε (List Text × σ)
  | [], seen, s => .ok (seen, s)
  | (k, v) :: rest, seen, s =>
    match key k with
    | .error e => .error e
    | .ok name =>
      match r.field? name with
      | none =>
        match skip v with
        | .error e => .error e
        | .ok _ => readEntries r problem key skip rest seen s
      | some f =>
        if seen.contains f.name then .error (problem (.duplicate f.name))
        else
          match f.read v s with
          | .error e => .error e
          | .ok s => readEntries r problem key skip rest (f.name :: seen) s

/-- The record, unless a field that has to be given is not among those seen. -/
def finish (r : Record ρ ε σ) (problem : FieldProblem → ε) (seen : List Text) (s : σ) :
    Except ε σ :=
  match r.firstMissing? seen with
  | some f => .error (problem (.missing f.name))
  | none => .ok s

/-- Reads a record from the entries of a map. -/
def readNamed {κ : Type} (r : Record ρ ε σ) (problem : FieldProblem → ε)
    (key : κ → Except ε Text) (skip : ρ → Except ε Unit) (entries : List (κ × ρ)) : Except ε σ :=
  match r.readEntries problem key skip entries [] r.blank with
  | .error e => .error e
  | .ok (seen, s) => r.finish problem seen s

/-- Reads fields by position; `left` is what remains of the list when all fields are read. -/
def readFields (problem : FieldProblem → ε) : List (Field ρ ε σ) → List ρ → σ → Except ε (σ × List ρ)
  | [], left, s => .ok (s, left)
  | f :: fs, [], s =>
    if f.presence = .optional then readFields problem fs [] s
    else .error (problem (.missing f.name))
  | f :: fs, v :: vs, s =>
    match f.read v s with
    | .error e => .error e
    | .ok s => readFields problem fs vs s

/-- Reads a record from a list, the fields in declared order; optional fields at the end may be
missing. -/
def readListed (r : Record ρ ε σ) (problem : FieldProblem → ε) (items : List ρ) : Except ε σ :=
  match readFields problem r.fields items r.blank with
  | .error e => .error e
  | .ok (s, []) => .ok s
  | .ok (_, _ :: _) => .error (problem .surplus)

end Record

end MangaPress
