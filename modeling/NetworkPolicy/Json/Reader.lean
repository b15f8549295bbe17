import NetworkPolicy.Json.Error
import NetworkPolicy.Text.Symbol

namespace NetworkPolicy.Json

open Text (Symbol)

/-- What is left of a text, and where that begins. -/
structure Cursor where
  rest : List Symbol
  position : Position

/-- The position behind `bytes` more bytes of `rest`; a piece may be cut. -/
def Position.after (p : Position) : Nat → List Symbol → Position
  | 0, _ => p
  | _, [] => p
  | bytes + 1, s :: rest =>
    if s = .char '\n' then after ⟨p.line + 1, 0⟩ bytes rest
    else if s.width ≤ bytes + 1 then after ⟨p.line, p.column + s.width⟩ (bytes + 1 - s.width) rest
    else ⟨p.line, p.column + (bytes + 1)⟩
termination_by _ rest => rest.length

namespace Cursor

def ofSymbols (symbols : List Symbol) : Cursor :=
  ⟨symbols, 1, 0⟩

def advance (c : Cursor) : Cursor :=
  match c.rest with
  | [] => c
  | s :: rest =>
    ⟨rest, if s = .char '\n' then ⟨c.position.line + 1, 0⟩
      else ⟨c.position.line, c.position.column + s.width⟩⟩

/-- One byte further, but not past the end. -/
def beyond (c : Cursor) : Position :=
  match c.rest with
  | [] => c.position
  | s :: _ =>
    if s = .char '\n' then ⟨c.position.line + 1, 0⟩ else ⟨c.position.line, c.position.column + 1⟩

def skipBlanksFrom : List Symbol → Position → Cursor
  | [], p => ⟨[], p⟩
  | s :: rest, p =>
    if s.isBlank then
      skipBlanksFrom rest (if s = .char '\n' then ⟨p.line + 1, 0⟩ else ⟨p.line, p.column + 1⟩)
    else ⟨s :: rest, p⟩

def skipBlanks (c : Cursor) : Cursor :=
  skipBlanksFrom c.rest c.position

end Cursor

abbrev Reader (α : Type) := StateT Cursor (Except Error) α

namespace Reader

def failHere {α : Type} (cause : Cause) : Reader α := fun c =>
  .error ⟨cause, c.position⟩

def failNext {α : Type} (cause : Cause) : Reader α := fun c =>
  .error ⟨cause, c.beyond⟩

def advance : Reader Unit :=
  modify Cursor.advance

def peek : Reader (Option Symbol) := do
  return (← get).rest.head?

def next : Reader (Option Symbol) := do
  modify Cursor.skipBlanks
  peek

def word : List Char → Reader Unit
  | [] => pure ()
  | c :: rest => do
    match ← peek with
    | none => failHere .endOfValue
    | some s =>
      if s = .char c then
        advance
        word rest
      else failNext .expectedWord

def colon : Reader Unit := do
  match ← next with
  | none => failHere .endOfObject
  | some (.char ':') => advance
  | some _ => failNext .expectedColon

end Reader

/-- Runs a reader on a whole text: nothing but blanks may follow. -/
def Reader.run {α : Type} (r : Reader α) (symbols : List Symbol) : Except Error α := do
  let (a, c) ← r (Cursor.ofSymbols symbols)
  if c.skipBlanks.rest.isEmpty then
    return a
  else
    throw ⟨.trailingCharacters, c.skipBlanks.beyond⟩

end NetworkPolicy.Json
