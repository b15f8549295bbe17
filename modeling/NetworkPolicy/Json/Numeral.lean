import NetworkPolicy.Json.Reader

namespace NetworkPolicy.Json

open Text (Symbol)

inductive Numeral where
  | integer (n : Int)
  | float (x : Float)

def Numeral.unexpected : Numeral → Unexpected
  | integer n => .integer n
  | float x => .float x

namespace Reader

def digitOf : Symbol → Option Nat
  | .char c => if c.isDigit then some (c.toNat - '0'.toNat) else none
  | .stray _ => none

def spanDigits : List Symbol → List Nat × List Symbol
  | [] => ([], [])
  | s :: rest =>
    match digitOf s with
    | some d => (d :: (spanDigits rest).1, (spanDigits rest).2)
    | none => ([], s :: rest)

def digits : Reader (List Nat) := fun c =>
  let (ds, rest) := spanDigits c.rest
  .ok (ds, ⟨rest, c.position.line, c.position.column + ds.length⟩)

/-- Appends digits while the number fits into 64 bits; also counts the digits that are left. -/
def gather (n : Nat) : List Nat → Nat × Nat
  | [] => (n, 0)
  | d :: rest => if n * 10 + d < UInt64.size then gather (n * 10 + d) rest else (n, rest.length + 1)

/-- `x · 10 ^ power`, by one multiplication or division with a power of ten a double can hold; a
smaller power is divided out in parts. -/
def scale : Nat → Float → Int → Option Float
  | 0, x, _ => some x
  | fuel + 1, x, power =>
    if power.natAbs ≤ 308 then
      let ten := Float.ofScientific 1 false power.natAbs
      if 0 ≤ power then
        if (x * ten).isInf then none else some (x * ten)
      else some (x / ten)
    else if x == 0 then some x
    else if 0 ≤ power then none
    else scale fuel (x / Float.ofScientific 1 false 308) (power + 308)

/-- The double for `significand · 10 ^ power`. After three parts nothing is left of 64 bits. -/
def float (negative : Bool) (significand : Nat) (power : Int) : Reader Numeral :=
  match scale 4 (Float.ofNat significand) power with
  | some x => return .float (if negative then -x else x)
  | none => failHere .numberOutOfRange

/-- Reads exponent digits; `none` with the digits used once the exponent leaves 31 bits. -/
def exponentOf (e : Nat) (used : Nat) : List Nat → Option Nat × Nat
  | [] => (some e, used)
  | d :: rest =>
    if e * 10 + d < UInt32.size / 2 then exponentOf (e * 10 + d) (used + 1) rest
    else (none, used + 1)

def exponent (negative : Bool) (significand : Nat) (power : Int) : Reader Numeral := do
  advance
  let down ← do
    match ← peek with
    | some (.char '+') => advance; pure false
    | some (.char '-') => advance; pure true
    | _ => pure false
  match ← peek with
  | none => failHere .endOfValue
  | some s =>
    if (digitOf s).isNone then failNext .invalidNumber
    else
      let start := (← get).position
      let ds ← digits
      match exponentOf 0 0 ds with
      | (some e, _) => float negative significand (if down then power - e else power + e)
      | (none, used) =>
        if significand ≠ 0 && !down then
          throw ⟨.numberOutOfRange, start.line, start.column + used⟩
        else return .float (if negative then -0.0 else 0.0)

def fraction (negative : Bool) (significand : Nat) (power : Int) : Reader Numeral := do
  advance
  let ds ← digits
  if ds.isEmpty then
    match ← peek with
    | none => failHere .endOfValue
    | some _ => failNext .invalidNumber
  else
    let (significand, left) := gather significand ds
    let power := power - ((ds.length - left : Nat) : Int)
    match ← peek with
    | some (.char 'e') | some (.char 'E') => exponent negative significand power
    | _ => float negative significand power

/-- What follows the whole part, of which `dropped` digits did not fit. -/
def numberTail (negative : Bool) (significand dropped : Nat) : Reader Numeral := do
  match ← peek with
  | some (.char '.') => fraction negative significand dropped
  | some (.char 'e') | some (.char 'E') => exponent negative significand dropped
  | _ =>
    if dropped ≠ 0 then float negative significand dropped
    else if !negative then return .integer significand
    else if significand = 0 || UInt64.size / 2 < significand then
      return .float (-(Float.ofNat significand))
    else return .integer (-significand)

def number (negative : Bool) : Reader Numeral := do
  match ← peek with
  | none => failHere .endOfValue
  | some (.char '0') =>
    advance
    match ← peek with
    | some s =>
      if (digitOf s).isSome then failNext .invalidNumber else numberTail negative 0 0
    | none => numberTail negative 0 0
  | some s =>
    if (digitOf s).isNone then failNext .invalidNumber
    else
      let ds ← digits
      let (significand, dropped) := gather 0 ds
      numberTail negative significand dropped

def skipExponent : Reader Unit := do
  advance
  match ← peek with
  | some (.char '+') | some (.char '-') => advance
  | _ => pure ()
  match ← peek with
  | none => failHere .invalidNumber
  | some s =>
    if (digitOf s).isNone then failNext .invalidNumber
    else
      let _ ← digits

def skipFraction : Reader Unit := do
  advance
  let ds ← digits
  if ds.isEmpty then failNext .invalidNumber
  else
    match ← peek with
    | some (.char 'e') | some (.char 'E') => skipExponent
    | _ => pure ()

def skipNumber : Reader Unit := do
  match ← peek with
  | none => failHere .invalidNumber
  | some (.char '0') =>
    advance
    match ← peek with
    | some s => if (digitOf s).isSome then failNext .invalidNumber else skipTail
    | none => pure ()
  | some s =>
    if (digitOf s).isNone then failNext .invalidNumber
    else
      let _ ← digits
      skipTail
where
  skipTail : Reader Unit := do
    match ← peek with
    | some (.char '.') => skipFraction
    | some (.char 'e') | some (.char 'E') => skipExponent
    | _ => pure ()

end Reader

end NetworkPolicy.Json
