namespace NetworkPolicy.Decimal

def twoTo (power : Nat) : Nat :=
  Nat.pow 2 power

def tenTo (power : Nat) : Nat :=
  Nat.pow 10 power

/-- The value `significand · 2 ^ exponent`. Below a power of two the neighbour is half as far. -/
structure Binary where
  significand : Nat
  exponent : Int
  narrowBelow : Bool
  deriving DecidableEq

def Binary.ofBits (bits : Nat) : Binary :=
  let fraction := bits % twoTo 52
  let biased : Nat := bits / twoTo 52 % 2048
  if biased = 0 then ⟨fraction, -1074, false⟩
  else ⟨fraction + twoTo 52, (biased : Int) - 1075, fraction = 0 && 1 < biased⟩

structure Scaled where
  coefficient : Nat
  power : Int
  deriving DecidableEq

/-- Zeros at the end of the coefficient belong to the power. -/
def Scaled.trim : Nat → Scaled → Scaled
  | 0, s => s
  | fuel + 1, s =>
    if s.coefficient ≠ 0 ∧ s.coefficient % 10 = 0 then
      trim fuel ⟨s.coefficient / 10, s.power + 1⟩
    else s

/-- The power of ten of the leading digit. Scaled by `10 ^ 400` every magnitude is at least one. -/
def Binary.leadingPower (b : Binary) : Int :=
  let scaled := b.significand * tenTo 400 * twoTo b.exponent.toNat / twoTo (-b.exponent).toNat
  (Nat.toDigits 10 scaled).length - 401

/-- The point of the grid `10 ^ power` that stands for `b`, when the grid has one. Quarters of the
last binary place keep the two midpoints whole. -/
def Binary.onGrid (b : Binary) (power : Int) : Option Nat :=
  let up := twoTo (b.exponent - 2).toNat * tenTo (-power).toNat
  let down := twoTo (2 - b.exponent).toNat * tenTo power.toNat
  let value := 4 * b.significand * up
  let low := (4 * b.significand - if b.narrowBelow then 1 else 2) * up
  let high := (4 * b.significand + 2) * up
  let inside (d : Nat) : Bool :=
    if b.significand % 2 = 0 then low ≤ d * down && d * down ≤ high
    else low < d * down && d * down < high
  let floor := value / down
  if inside floor then
    if inside (floor + 1) then
      let below := value - floor * down
      let above := (floor + 1) * down - value
      if below < above || (below = above && floor % 2 = 0) then some floor else some (floor + 1)
    else some floor
  else if inside (floor + 1) then some (floor + 1)
  else none

/-- Grids from coarse to fine; seventeen digits tell any two doubles apart. -/
def Binary.search (b : Binary) : Nat → Int → Scaled
  | 0, power => ⟨0, power⟩
  | fuel + 1, power =>
    match b.onGrid power with
    | some d => ⟨d, power⟩
    | none => b.search fuel (power - 1)

def Binary.shortest (b : Binary) : Scaled :=
  if b.significand = 0 then ⟨0, 0⟩ else (b.search 18 b.leadingPower).trim 20

/-- How a decimal is laid out: positionally while the power of its leading digit is in range, else
with one digit before the point and an exponent with a sign. -/
structure Layout where
  lowest : Int
  highest : Int

def Layout.render (l : Layout) (s : Scaled) : String :=
  let digits := Nat.toDigits 10 s.coefficient
  let leading := s.power + digits.length - 1
  if leading < l.lowest ∨ l.highest < leading then
    let mantissa := match digits with
      | d :: e :: rest => d :: '.' :: e :: rest
      | ds => ds
    String.ofList (mantissa ++ 'e' :: (if leading < 0 then '-' else '+')
      :: Nat.toDigits 10 leading.natAbs)
  else if 0 ≤ s.power then
    String.ofList (digits ++ List.replicate s.power.toNat '0' ++ ['.', '0'])
  else if 0 ≤ leading then
    let whole := leading.toNat + 1
    String.ofList (digits.take whole ++ '.' :: digits.drop whole)
  else
    String.ofList ('0' :: '.' :: List.replicate (-leading - 1).toNat '0' ++ digits)

/-- The text of a finite double; zero keeps its sign. -/
def Layout.renderFloat (l : Layout) (x : Float) : String :=
  let bits := x.toBits.toNat
  (if twoTo 63 ≤ bits then "-" else "") ++ l.render (Binary.ofBits (bits % twoTo 63)).shortest

end NetworkPolicy.Decimal
