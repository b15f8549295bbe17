import NetworkPolicy.Text.Symbol

namespace NetworkPolicy.Text

/-- How many bytes a character with this first byte takes, and the bounds of its second byte. -/
def lead? (b : UInt8) : Option (Nat × UInt8 × UInt8) :=
  if 0xc2 ≤ b ∧ b ≤ 0xdf then some (2, 0x80, 0xbf)
  else if b = 0xe0 then some (3, 0xa0, 0xbf)
  else if b = 0xed then some (3, 0x80, 0x9f)
  else if 0xe1 ≤ b ∧ b ≤ 0xef then some (3, 0x80, 0xbf)
  else if b = 0xf0 then some (4, 0x90, 0xbf)
  else if 0xf1 ≤ b ∧ b ≤ 0xf3 then some (4, 0x80, 0xbf)
  else if b = 0xf4 then some (4, 0x80, 0x8f)
  else none

def Symbol.isBetween (low high : UInt8) : Symbol → Bool
  | char _ => false
  | stray b => low ≤ b && b ≤ high

/-- The number of pieces after the stray byte `b` that go on with the character it begins. -/
def goesOn (b : UInt8) (rest : List Symbol) : Nat :=
  match lead? b, rest with
  | some (size, low, high), s :: more =>
    if s.isBetween low high then
      1 + ((more.take (size - 3)).takeWhile (Symbol.isBetween 0x80 0xbf)).length
    else 0
  | _, _ => 0

/-- The text with a replacement character for each flaw. -/
def mended : List Symbol → List Char
  | [] => []
  | .char c :: rest => c :: mended rest
  | .stray b :: rest => '\ufffd' :: mended (rest.drop (goesOn b rest))
termination_by symbols => symbols.length

/-- The place of a flaw, and its length unless more bytes might have mended it. -/
structure Flaw where
  index : Nat
  length : Option Nat
  deriving DecidableEq, Inhabited

def Flaw.message (f : Flaw) : String :=
  match f.length with
  | some n => "invalid utf-8 sequence of " ++ toString n ++ " bytes from index " ++ toString f.index
  | none => "incomplete utf-8 byte sequence from index " ++ toString f.index

def flaw? (symbols : List Symbol) : Option Flaw :=
  let sound := symbols.takeWhile fun s => s.char?.isSome
  match symbols.drop sound.length with
  | .stray b :: rest =>
    let more := goesOn b rest
    let isOpen := (lead? b).isSome && more = rest.length
    some ⟨Symbol.widths sound, if isOpen then none else some (more + 1)⟩
  | _ => none

/-- The text that bytes stand for, or their first flaw. -/
def ofBytes (bytes : List UInt8) : Except Flaw String :=
  let symbols := symbols bytes.toByteArray
  match flaw? symbols with
  | some f => .error f
  | none => .ok (String.ofList (symbols.filterMap Symbol.char?))

end NetworkPolicy.Text
