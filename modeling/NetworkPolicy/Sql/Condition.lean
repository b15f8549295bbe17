namespace NetworkPolicy.Sql

/-- What a condition says of a row, with `none` for what is not known. -/
abbrev Truth := Option Bool

namespace Truth

def and : Truth → Truth → Truth
  | some false, _ => some false
  | _, some false => some false
  | some true, some true => some true
  | _, _ => none

def or : Truth → Truth → Truth
  | some true, _ => some true
  | _, some true => some true
  | some false, some false => some false
  | _, _ => none

end Truth

inductive Connective where
  | and
  | or
  deriving DecidableEq, Inhabited

def Connective.apply : Connective → Truth → Truth → Truth
  | and => Truth.and
  | or => Truth.or

inductive Condition (Column : Type) where
  /-- The column holds one of the values at so many places. -/
  | among (column : Column) (places : Nat)
  | joined (c : Connective) (a b : Condition Column)
  deriving DecidableEq

namespace Condition

variable {Column : Type}

def places : Condition Column → Nat
  | among _ n => n
  | joined _ a b => a.places + b.places

/-- A place without a value leaves it open whether that value is the one of the row. -/
def holds (row : Column → Option String) : Condition Column → List String → Truth
  | among column n, values =>
    match row column with
    | none => none
    | some value =>
      if value ∈ values.take n then some true
      else if values.length < n then none
      else some false
  | joined c a b, values => c.apply (a.holds row values) (b.holds row (values.drop a.places))

def join (c : Connective) : List (Condition Column) → Option (Condition Column)
  | [] => none
  | a :: rest => some (rest.foldl (joined c) a)

end Condition

end NetworkPolicy.Sql
