import NetworkPolicy.Json.Numeral
import NetworkPolicy.Json.Value
import NetworkPolicy.Json.Quotation

namespace NetworkPolicy.Json

open Text (Symbol)

structure Codec (α : Type) where
  read : Reader α
  write : α → Json

namespace Reader

def unexpected : Reader Unexpected := do
  match ← peek with
  | some (.char 'n') =>
    advance
    word ['u', 'l', 'l']
    return .null
  | some (.char 't') =>
    advance
    word ['r', 'u', 'e']
    return .bool true
  | some (.char 'f') =>
    advance
    word ['a', 'l', 's', 'e']
    return .bool false
  | some (.char '-') =>
    advance
    return (← number true).unexpected
  | some (.char '"') =>
    advance
    return .text (← text)
  | some (.char '[') => return .sequence
  | some (.char '\x7b') => return .map
  | some s =>
    if (digitOf s).isSome then return (← number false).unexpected else failNext .expectedValue
  | none => failHere .expectedValue

def mismatch {α : Type} (expected : String) : Reader α := do
  failHere (.wrongType (← unexpected) expected)

/-- An item follows in a list. The comma before it is read, the closing bracket is not. -/
def nextItem (first : Bool) : Reader Bool := do
  match ← next with
  | none => failHere .endOfList
  | some (.char ']') => return false
  | some s =>
    if first then return true
    else if s = .char ',' then
      advance
      match ← next with
      | none => failHere .endOfValue
      | some (.char ']') => failNext .trailingComma
      | some _ => return true
    else failNext .expectedListEnd

def endList : Reader Unit := do
  match ← next with
  | none => failHere .endOfList
  | some (.char ']') => advance
  | some (.char ',') =>
    advance
    match ← next with
    | some (.char ']') => failNext .trailingComma
    | _ => failNext .trailingCharacters
  | some _ => failNext .trailingCharacters

def itemsFrom {α : Type} (item : Reader α) : Nat → List α → Reader (List α)
  | 0, _ => failHere .endOfList
  | fuel + 1, before => do
    if ← nextItem before.isEmpty then
      let a ← item
      itemsFrom item fuel (a :: before)
    else
      advance
      return before.reverse

end Reader

namespace Codec

open Reader

def text : Codec String where
  read := do
    match ← next with
    | none => failHere .endOfValue
    | some (.char '"') =>
      advance
      Reader.text
    | some _ => mismatch "a string"
  write s := .text s

/-- Integers of a named type. One that does not come back from the type does not fit. -/
def integer {α : Type} (name : String) (ofInt : Int → α) (toInt : α → Int) : Codec α where
  read := do
    match ← next with
    | none => failHere .endOfValue
    | some (.char '-') =>
      advance
      accept (← Reader.number true)
    | some s =>
      if (digitOf s).isSome then accept (← Reader.number false) else mismatch name
  write a := .integer (toInt a)
where
  accept : Numeral → Reader α
    | .integer n =>
      if toInt (ofInt n) = n then return ofInt n else failHere (.wrongValue (.integer n) name)
    | .float x => failHere (.wrongType (.float x) name)

def uint16 : Codec UInt16 :=
  integer "u16" (fun n => .ofNat n.toNat) (·.toNat)

def uint32 : Codec UInt32 :=
  integer "u32" (fun n => .ofNat n.toNat) (·.toNat)

def uint64 (name : String) : Codec UInt64 :=
  integer name (fun n => .ofNat n.toNat) (·.toNat)

def int64 : Codec Int64 :=
  integer "i64" .ofInt (·.toInt)

def list {α : Type} (c : Codec α) : Codec (List α) where
  read := do
    match ← next with
    | none => failHere .endOfValue
    | some (.char '[') =>
      advance
      itemsFrom c.read ((← get).rest.length + 1) []
    | some _ => mismatch "a sequence"
  write as := .array (as.map c.write)

/-- A value with a name, written as the name. An object with the name as its only key, and null
there, is read too. -/
def choice {α : Type} (names : List (String × α)) (name : α → String) : Codec α where
  read := do
    match ← next with
    | none => failHere .endOfValue
    | some (.char '"') =>
      advance
      named
    | some (.char '\x7b') =>
      advance
      match ← next with
      | none => failHere .endOfObject
      | some (.char '"') => advance
      | some (.char '\x7d') => failNext .expectedValue
      | some _ => failNext .keyNotText
      let a ← named
      colon
      match ← next with
      | none => failHere .endOfValue
      | some (.char 'n') =>
        advance
        word ['u', 'l', 'l']
      | some _ => mismatch "unit"
      match ← next with
      | none => failHere .endOfObject
      | some (.char '\x7d') =>
        advance
        return a
      | some _ => failHere .expectedValue
    | some _ => failNext .expectedValue
  write a := .text (name a)
where
  /-- A name whose opening quote is read. -/
  named : Reader α := do
    let s ← Reader.text
    match names.lookup s with
    | some a => return a
    | none => failHere (.unknownName s (names.map Prod.fst))

def parse {α : Type} (c : Codec α) (s : String) : Except Error α :=
  c.read.run (Text.symbolsOf s)

def parseBytes {α : Type} (c : Codec α) (bytes : ByteArray) : Except Error α :=
  c.read.run (Text.symbols bytes)

def print {α : Type} (c : Codec α) (a : α) : String :=
  (c.write a).compact

end Codec

end NetworkPolicy.Json
