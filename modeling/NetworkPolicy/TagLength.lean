import NetworkPolicy.Failure

namespace NetworkPolicy

structure TagLength where
  bytes : Nat
  bytes_pos : 1 ≤ bytes := by decide
  bytes_le : bytes ≤ 3 := by decide
  deriving DecidableEq

namespace TagLength

def ofBytes (bytes : Nat) : Except Failure TagLength :=
  if h : 1 ≤ bytes ∧ bytes ≤ 3 then .ok ⟨bytes, h.1, h.2⟩ else .error (.tagLength bytes)

/-- Slot zero is not used. -/
def poolSize (n : TagLength) : Nat :=
  Nat.pow 256 n.bytes - 1

/-- Upper-case hex of the slot as an unsigned number of 64 bits, padded with zeros to the tag
length; a slot too large for it takes more digits. -/
def format (n : TagLength) (slot : Int) : String :=
  let digits := (Nat.toDigits 16 (slot % UInt64.size).toNat).map Char.toUpper
  String.ofList (digits.leftpad (2 * n.bytes) '0')

end TagLength

end NetworkPolicy
