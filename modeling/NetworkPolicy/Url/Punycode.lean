namespace NetworkPolicy.Url.Punycode

def digit? (c : Char) : Option Nat :=
  if 'a' ≤ c ∧ c ≤ 'z' then some (c.toNat - 'a'.toNat)
  else if '0' ≤ c ∧ c ≤ '9' then some (c.toNat - '0'.toNat + 26)
  else none

/-- A digit below its threshold ends a number. `k` is 36 for the first digit, 72 for the next. -/
def threshold (bias k : Nat) : Nat :=
  min 26 (max 1 (k - bias))

def number? (bias : Nat) : Nat → Nat → Nat → List Char → Option (Nat × List Char)
  | _, _, _, [] => none
  | k, weight, n, c :: rest => do
    let d ← digit? c
    let n := n + d * weight
    let t := threshold bias k
    if d < t then some (n, rest) else number? bias (k + 36) (weight * (36 - t)) n rest

/-- Divides by 35 until at most 455 is left; each division counts for 36. -/
def settle (delta : Nat) : Nat × Nat :=
  if 455 < delta then
    let (rest, k) := settle (delta / 35)
    (rest, k + 36)
  else (delta, 0)
termination_by delta
decreasing_by omega

def adapt (delta count : Nat) (first : Bool) : Nat :=
  let delta := delta / (if first then 700 else 2)
  let (rest, k) := settle (delta + delta / count)
  k + 36 * rest / (rest + 38)

/-- Puts in one character a number. From one character to the next the code point is as much higher
as rounds through the name are counted, and the place is where the last round ends. -/
def insertFrom : Nat → Nat → Nat → Nat → List Char → List Char → Option (List Char)
  | _, _, _, _, done, [] => some done
  | 0, _, _, _, _, _ :: _ => none
  | fuel + 1, bias, code, start, done, rest => do
    let (delta, rest) ← number? bias 36 1 0 rest
    let count := done.length + 1
    let code := code + (start + delta) / count
    let place := (start + delta) % count
    if code.isValidChar then
      let done := done.insertIdx place (Char.ofNat code)
      insertFrom fuel (adapt delta count (start = 0)) code (place + 1) done rest
    else none

def decode? (cs : List Char) : Option (List Char) :=
  let coded := (cs.reverse.takeWhile (· ≠ '-')).reverse
  let plain := cs.take (cs.length - coded.length)
  if plain = ['-'] then none else insertFrom coded.length 72 0x80 0 plain.dropLast coded

end NetworkPolicy.Url.Punycode
