import NetworkPolicy.Text.Digit

namespace NetworkPolicy

/-- An address as a number of 32 or 128 bits. -/
inductive Address where
  | v4 (value : Nat)
  | v6 (value : Nat)
  deriving DecidableEq, Inhabited

namespace Address

open Text (hexDigit? decimalDigit? number pieces)

def octet? (cs : List Char) : Option Nat :=
  match cs.mapM decimalDigit? with
  | none => none
  | some ds =>
    if ds ≠ [] ∧ ds.length ≤ 3 ∧ (ds.head? = some 0 → ds.length = 1) ∧ number 10 ds < 256 then
      some (number 10 ds)
    else none

def v4Value? (cs : List Char) : Option Nat :=
  match (pieces '.' cs).mapM octet? with
  | some [a, b, c, d] => some (number 256 [a, b, c, d])
  | _ => none

def group? (cs : List Char) : Option Nat :=
  match cs.mapM hexDigit? with
  | none => none
  | some ds => if ds ≠ [] ∧ ds.length ≤ 4 then some (number 16 ds) else none

def groupSize : Nat := UInt16.size

/-- The groups of an IPv6 text without a double colon, an IPv4 text at the end counting as two. -/
def closedGroups? (parts : List (List Char)) : Option (List Nat) :=
  match parts with
  | [] => none
  | [p] =>
    match v4Value? p with
    | some v => some [v / groupSize, v % groupSize]
    | none => (group? p).map ([·])
  | p :: q :: rest => do return (← group? p) :: (← closedGroups? (q :: rest))

/-- What stands before and after the first double colon. -/
def splitAtDouble : List Char → Option (List Char × List Char)
  | ':' :: ':' :: rest => some ([], rest)
  | c :: rest => (splitAtDouble rest).map fun (before, after) => (c :: before, after)
  | [] => none

def side? (groups? : List (List Char) → Option (List Nat)) (cs : List Char) : Option (List Nat) :=
  if cs.isEmpty then some [] else groups? (pieces ':' cs)

def v6Value? (cs : List Char) : Option Nat :=
  match splitAtDouble cs with
  | none => do
    let groups ← closedGroups? (pieces ':' cs)
    if groups.length = 8 then some (number groupSize groups) else none
  | some (before, after) => do
    let high ← side? (List.mapM group?) before
    let low ← side? closedGroups? after
    if high.length + low.length < 8 then
      some (number groupSize (high ++ List.replicate (8 - high.length - low.length) 0 ++ low))
    else none

def ofText? (s : String) : Option Address :=
  match v4Value? s.toList with
  | some v => some (v4 v)
  | none => (v6Value? s.toList).map v6

/-- Addresses of different families are not ordered. -/
def notAfter : Address → Address → Bool
  | v4 a, v4 b => a ≤ b
  | v6 a, v6 b => a ≤ b
  | _, _ => false

end Address

end NetworkPolicy
