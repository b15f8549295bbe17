namespace NetworkPolicy.Text

/-- One piece of a byte sequence: a whole character, or a byte that starts none. -/
inductive Symbol where
  | char (c : Char)
  | stray (b : UInt8)
  deriving DecidableEq, Inhabited

namespace Symbol

def width : Symbol → Nat
  | char c => c.utf8Size
  | stray _ => 1

def widths : List Symbol → Nat
  | [] => 0
  | s :: rest => s.width + widths rest

def char? : Symbol → Option Char
  | char c => some c
  | stray _ => none

def isControl : Symbol → Bool
  | char c => c.toNat < 0x20
  | stray _ => false

/-- Blanks between the parts of a JSON text. -/
def isBlank : Symbol → Bool
  | char c => c = ' ' || c = '\n' || c = '\t' || c = '\r'
  | stray _ => false

end Symbol

def symbolsFrom (bytes : ByteArray) (i : Nat) : List Symbol :=
  if h : i < bytes.size then
    match bytes.utf8DecodeChar? i with
    | some c => .char c :: symbolsFrom bytes (i + c.utf8Size)
    | none => .stray bytes[i] :: symbolsFrom bytes (i + 1)
  else []
termination_by bytes.size - i
decreasing_by
  · have := c.utf8Size_pos; omega
  · omega

def symbols (bytes : ByteArray) : List Symbol :=
  symbolsFrom bytes 0

/-- A string has no stray bytes. -/
def symbolsOf (s : String) : List Symbol :=
  s.toList.map .char

end NetworkPolicy.Text
