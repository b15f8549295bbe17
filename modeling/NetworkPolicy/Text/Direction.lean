import NetworkPolicy.Text.Mark

namespace NetworkPolicy.Text

/-- Characters of the scripts written from right to left (Unicode 17). -/
def rightToLeftRuns : List (Nat × Nat) := [
  (0x5be, 0x5f4), (0x608, 0x608), (0x60b, 0x60b), (0x60d, 0x60d), (0x61b, 0x64a),
  (0x66d, 0x6d5), (0x6e5, 0x6e6), (0x6ee, 0x6ef), (0x6fa, 0x7f5), (0x7fa, 0x88f),
  (0x8a0, 0x8c9), (0xfb1d, 0xfb28), (0xfb2a, 0xfdc7), (0xfdf0, 0xfdfc), (0xfe70, 0xfefc),
  (0x10800, 0x1091b), (0x10920, 0x10b35), (0x10b40, 0x10d23), (0x10d40, 0x10d85),
  (0x10e80, 0x10ff6), (0x1e800, 0x1eebb)]

/-- Numbers that keep their direction in those scripts. -/
def arabicNumberRuns : List (Nat × Nat) := [
  (0x660, 0x669), (0x66b, 0x66c), (0x10d30, 0x10d39), (0x10e60, 0x10e7e)]

inductive Direction where
  | left
  | right
  | arabicNumber
  | number
  | mark
  | neutral
  deriving DecidableEq, Inhabited

/-- Digits and signs of ASCII have no direction of their own. -/
def direction (c : Char) : Direction :=
  if isMark c then .mark
  else if within rightToLeftRuns c then .right
  else if within arabicNumberRuns c then .arabicNumber
  else if c.isDigit || within [(0x6f0, 0x6f9)] c then .number
  else if c.toNat < 0x80 && !c.isAlpha then .neutral
  else .left

/-- The rule for a name that stands beside names written from right to left: one direction, and at
both ends nothing neutral. -/
def hasOneDirection (cs : List Char) : Bool :=
  let directions := cs.map direction
  let ending := (directions.reverse.dropWhile (· = .mark)).head?
  match directions.head? with
  | none => true
  | some .left =>
    directions.all (fun d => d ≠ .right && d ≠ .arabicNumber)
      && (ending = some .left || ending = some .number)
  | some .right =>
    !directions.contains .left && ending ≠ some .neutral
      && !(directions.contains .number && directions.contains .arabicNumber)
  | some _ => false

end NetworkPolicy.Text
