import NetworkPolicy.Json.Numeral
import NetworkPolicy.Json.Quotation

namespace NetworkPolicy.Json.Reader

mutual

/-- A value that nobody asked for: the characters of its texts and the size of its numbers are not
looked at. Every call reads at least one piece before it calls another with the same fuel less one,
so twice the number of pieces is enough fuel. -/
def skipValueFrom : Nat → Reader Unit
  | 0 => failHere .endOfValue
  | fuel + 1 => do
    match ← next with
    | none => failHere .endOfValue
    | some (.char 'n') =>
      advance
      word ['u', 'l', 'l']
    | some (.char 't') =>
      advance
      word ['r', 'u', 'e']
    | some (.char 'f') =>
      advance
      word ['a', 'l', 's', 'e']
    | some (.char '-') =>
      advance
      skipNumber
    | some (.char '"') =>
      advance
      skipText
    | some (.char '[') =>
      advance
      match ← next with
      | none => failHere .endOfList
      | some (.char ']') => advance
      | some _ => skipItemsFrom fuel
    | some (.char '\x7b') =>
      advance
      match ← next with
      | none => failHere .endOfObject
      | some (.char '\x7d') => advance
      | some _ => skipMembersFrom fuel
    | some s =>
      if (digitOf s).isSome then skipNumber else failNext .expectedValue

def skipItemsFrom : Nat → Reader Unit
  | 0 => failHere .endOfList
  | fuel + 1 => do
    skipValueFrom fuel
    match ← next with
    | none => failHere .endOfList
    | some (.char ',') =>
      advance
      skipItemsFrom fuel
    | some (.char ']') => advance
    | some _ => failNext .expectedListEnd

def skipMembersFrom : Nat → Reader Unit
  | 0 => failHere .endOfObject
  | fuel + 1 => do
    match ← next with
    | none => failHere .endOfObject
    | some (.char '"') =>
      advance
      skipText
      colon
      skipValueFrom fuel
      match ← next with
      | none => failHere .endOfObject
      | some (.char ',') =>
        advance
        skipMembersFrom fuel
      | some (.char '\x7d') => advance
      | some _ => failNext .expectedObjectEnd
    | some _ => failNext .keyNotText

end

def skipValue : Reader Unit := do
  skipValueFrom (2 * (← get).rest.length + 1)

end NetworkPolicy.Json.Reader
