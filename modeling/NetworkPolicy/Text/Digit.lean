namespace NetworkPolicy.Text

def hexDigit? (c : Char) : Option Nat :=
  if '0' ≤ c ∧ c ≤ '9' then some (c.toNat - '0'.toNat)
  else if 'a' ≤ c ∧ c ≤ 'f' then some (c.toNat - 'a'.toNat + 10)
  else if 'A' ≤ c ∧ c ≤ 'F' then some (c.toNat - 'A'.toNat + 10)
  else none

def decimalDigit? (c : Char) : Option Nat :=
  if '0' ≤ c ∧ c ≤ '9' then some (c.toNat - '0'.toNat) else none

/-- The number that digits stand for, first digit first. -/
def number (base : Nat) (digits : List Nat) : Nat :=
  digits.foldl (fun n d => n * base + d) 0

/-- The stretches between separators, one more than there are separators. -/
def pieces (separator : Char) : List Char → List (List Char)
  | [] => [[]]
  | c :: rest =>
    if c = separator then [] :: pieces separator rest
    else
      match pieces separator rest with
      | [] => [[c]]
      | p :: ps => (c :: p) :: ps

def hexByte? (b : UInt8) : Option Nat :=
  hexDigit? (Char.ofNat b.toNat)

/-- A percent sign and two hex digits stand for one byte, any other byte for itself. -/
def percentDecoded : List UInt8 → List UInt8
  | p :: a :: b :: rest =>
    match hexByte? a, hexByte? b with
    | some high, some low =>
      if p = '%'.toUInt8 then UInt8.ofNat (high * 16 + low) :: percentDecoded rest
      else p :: percentDecoded (a :: b :: rest)
    | _, _ => p :: percentDecoded (a :: b :: rest)
  | bytes => bytes

end NetworkPolicy.Text
