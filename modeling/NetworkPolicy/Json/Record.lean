import NetworkPolicy.Json.Codec
import NetworkPolicy.Json.Skip

namespace NetworkPolicy.Json

open Text (Symbol)

/-- One field of the records of a type. A field that is not written has its blank value. -/
structure Field (σ : Type) where
  key : String
  optional : Bool
  read : σ → Reader σ
  write : σ → Option Json

namespace Field

variable {σ α : Type}

def required (key : String) (c : Codec α) (get : σ → α) (set : α → σ → σ) : Field σ where
  key := key
  optional := false
  read s := do return set (← c.read) s
  write s := some (c.write (get s))

def defaulted (key : String) (c : Codec α) (get : σ → α) (set : α → σ → σ) : Field σ where
  key := key
  optional := true
  read s := do return set (← c.read) s
  write s := some (c.write (get s))

/-- An optional field that is written only when it is not empty. -/
def sparse (key : String) (c : Codec α) (isEmpty : α → Bool) (get : σ → α) (set : α → σ → σ) :
    Field σ where
  key := key
  optional := true
  read s := do return set (← c.read) s
  write s := if isEmpty (get s) then none else some (c.write (get s))

end Field

/-- The shape of the records of a type. Fields that a text leaves out are those of `blank`. -/
structure Record (σ : Type) where
  name : String
  blank : σ
  fields : List (Field σ)

namespace Reader

def nextKey (first : Bool) : Reader Bool := do
  match ← next with
  | none => failHere .endOfObject
  | some (.char '\x7d') => return false
  | some s =>
    if first then key s
    else if s = .char ',' then
      advance
      match ← next with
      | none => failHere .endOfValue
      | some (.char '\x7d') => failNext .trailingComma
      | some s => key s
    else failNext .expectedObjectEnd
where
  key (s : Symbol) : Reader Bool :=
    if s = .char '"' then return true else failNext .keyNotText

/-- A fault of an object as a whole stands behind its brace, when that comes next. -/
def failObject {α : Type} (cause : Cause) : Reader α := do
  match ← next with
  | some (.char '\x7d') =>
    advance
    failHere cause
  | _ => failHere cause

/-- A fault of a list as a whole stands behind its bracket or the comma before more items. -/
def failList {α : Type} (cause : Cause) : Reader α := do
  match ← next with
  | some (.char ']') =>
    advance
    failHere cause
  | some (.char ',') =>
    advance
    let _ ← next
    failHere cause
  | _ => failHere cause

end Reader

namespace Record

open Reader

variable {σ : Type}

/-- "struct" and the size, as messages name a record read from a list. -/
def sized (r : Record σ) : String :=
  "struct " ++ r.name ++ " with " ++ toString r.fields.length
    ++ (if r.fields.length = 1 then " element" else " elements")

def elements (r : Record σ) : List (Field σ) → Nat → Bool → σ → Reader σ
  | [], _, _, s => do
    endList
    return s
  | f :: rest, index, first, s => do
    if ← nextItem first then
      let s ← f.read s
      elements r rest (index + 1) false s
    else if f.optional then elements r rest (index + 1) first s
    else failList (.wrongLength index r.sized)

/-- Reads members up to the closing brace; the keys in `seen` have been read. -/
def members (r : Record σ) : Nat → Bool → List String → σ → Reader σ
  | 0, _, _, _ => failHere .endOfObject
  | fuel + 1, first, seen, s => do
    if ← nextKey first then
      advance
      let key ← Reader.text
      match r.fields.find? (·.key = key) with
      | none =>
        colon
        skipValue
        members r fuel false seen s
      | some f =>
        if key ∈ seen then failObject (.repeatedField key)
        else
          colon
          let s ← f.read s
          members r fuel false (key :: seen) s
    else
      match r.fields.find? fun f => !f.optional && f.key ∉ seen with
      | some f => failObject (.missingField f.key)
      | none =>
        advance
        return s

def codec (r : Record σ) : Codec σ where
  read := do
    match ← next with
    | none => failHere .endOfValue
    | some (.char '[') =>
      advance
      r.elements r.fields 0 true r.blank
    | some (.char '\x7b') =>
      advance
      r.members ((← get).rest.length + 1) true [] r.blank
    | some _ => mismatch ("struct " ++ r.name)
  write s := .object (r.fields.filterMap fun f => (f.write s).map (f.key, ·))

end Record

end NetworkPolicy.Json
