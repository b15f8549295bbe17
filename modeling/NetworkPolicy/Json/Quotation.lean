import NetworkPolicy.Json.Reader
import NetworkPolicy.Text.Digit

namespace NetworkPolicy.Json.Reader

open Text (Symbol hexDigit?)

def fourDigits (s₁ s₂ s₃ s₄ : Symbol) : Option Nat :=
  match s₁, s₂, s₃, s₄ with
  | .char a, .char b, .char c, .char d =>
    match hexDigit? a, hexDigit? b, hexDigit? c, hexDigit? d with
    | some a, some b, some c, some d => some (((a * 16 + b) * 16 + c) * 16 + d)
    | _, _, _, _ => none
  | _, _, _, _ => none

/-- The four digits of an escape. Four bytes are taken before they are looked at. -/
def hexEscape : Reader Nat := fun c =>
  if Symbol.widths (c.rest.take 4) < 4 then
    .error ⟨.endOfText, c.position.after 4 c.rest⟩
  else
    match c.rest with
    | s₁ :: s₂ :: s₃ :: s₄ :: rest =>
      match fourDigits s₁ s₂ s₃ s₄ with
      | some n => .ok (n, ⟨rest, c.position.after 4 c.rest⟩)
      | none => .error ⟨.invalidEscape, c.position.after 4 c.rest⟩
    | _ => .error ⟨.invalidEscape, c.position.after 4 c.rest⟩

def shortEscape (c : Char) : Option Char :=
  match c with
  | '"' => some '"'
  | '\\' => some '\\'
  | '/' => some '/'
  | 'b' => some '\x08'
  | 'f' => some '\x0c'
  | 'n' => some '\n'
  | 'r' => some '\r'
  | 't' => some '\t'
  | _ => none

def isLeading (n : Nat) : Bool :=
  0xD800 ≤ n && n ≤ 0xDBFF

def isTrailing (n : Nat) : Bool :=
  0xDC00 ≤ n && n ≤ 0xDFFF

def pairedWith (leading : Nat) : Reader Char := do
  match ← peek with
  | none => failHere .endOfText
  | some (.char '\\') =>
    advance
    match ← peek with
    | none => failHere .endOfText
    | some (.char 'u') =>
      advance
      let trailing ← hexEscape
      if isTrailing trailing then
        return Char.ofNat ((leading - 0xD800) * 0x400 + (trailing - 0xDC00) + 0x10000)
      else failHere .loneSurrogate
    | some _ => failNext .unfinishedSurrogate
  | some _ => failNext .unfinishedSurrogate

def escape : Reader Char := do
  match ← peek with
  | none => failHere .endOfText
  | some (.char 'u') =>
    advance
    let n ← hexEscape
    if isTrailing n then failHere .loneSurrogate
    else if isLeading n then pairedWith n
    else return Char.ofNat n
  | some (.char c) =>
    match shortEscape c with
    | some d =>
      advance
      return d
    | none => failNext .invalidEscape
  | some (.stray _) => failNext .invalidEscape

/-- Keeps a text that is read to its closing quote. Stray bytes are noticed only now: the fault is
placed as many bytes back as the text, its escapes resolved, has from the first of them on. -/
def keep (pieces : List Symbol) : Reader String := do
  match pieces.mapM Symbol.char? with
  | some chars => return String.ofList chars
  | none =>
    let p := (← get).position
    throw ⟨.invalidCodePoint, p.line,
      p.column - Symbol.widths (pieces.dropWhile fun s => s.char?.isSome)⟩

/-- The text up to the closing quote, after the pieces in `before` (last first). Each step reads at
least one piece, so as many steps as pieces suffice. -/
def textFrom : Nat → List Symbol → Reader String
  | 0, _ => failHere .endOfText
  | fuel + 1, before => do
    match ← peek with
    | none => failHere .endOfText
    | some (.char '"') =>
      advance
      keep before.reverse
    | some (.char '\\') =>
      advance
      let c ← escape
      textFrom fuel (.char c :: before)
    | some s =>
      if s.isControl then failNext .controlCharacter
      else
        advance
        textFrom fuel (s :: before)

def text : Reader String := do
  textFrom ((← get).rest.length + 1) []

def skipEscape : Reader Unit := do
  match ← peek with
  | none => failHere .endOfText
  | some (.char 'u') =>
    advance
    let _ ← hexEscape
  | some (.char c) =>
    if (shortEscape c).isSome then advance else failNext .invalidEscape
  | some (.stray _) => failNext .invalidEscape

def skipTextFrom : Nat → Reader Unit
  | 0 => failHere .endOfText
  | fuel + 1 => do
    match ← peek with
    | none => failHere .endOfText
    | some (.char '"') => advance
    | some (.char '\\') =>
      advance
      skipEscape
      skipTextFrom fuel
    | some (.char c) =>
      if c.toNat < 0x20 then failHere .controlCharacter
      else
        advance
        skipTextFrom fuel
    | some (.stray _) =>
      advance
      skipTextFrom fuel

def skipText : Reader Unit := do
  skipTextFrom ((← get).rest.length + 1)

end NetworkPolicy.Json.Reader
