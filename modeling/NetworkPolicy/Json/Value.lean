namespace NetworkPolicy

/-- A number as written: `-12.50e3` has whole part 12, fraction digits 5 and 0, and exponent 3. -/
structure Json.Number where
  negative : Bool
  whole : Nat
  fraction : List (Fin 10)
  exponent : Option Int
  deriving DecidableEq

inductive Json where
  | null
  | bool (b : Bool)
  | number (n : Json.Number)
  | text (s : String)
  | array (items : List Json)
  | object (members : List (String × Json))
  deriving Inhabited

namespace Json

def integer (n : Int) : Json :=
  .number ⟨decide (n < 0), n.natAbs, [], none⟩

/-- A character of a quoted text. Control characters without a letter of their own take four hex
digits. -/
def escaped (c : Char) : List Char :=
  match c with
  | '"' => ['\\', '"']
  | '\\' => ['\\', '\\']
  | '\x08' => ['\\', 'b']
  | '\t' => ['\\', 't']
  | '\n' => ['\\', 'n']
  | '\x0c' => ['\\', 'f']
  | '\r' => ['\\', 'r']
  | c =>
    if c.toNat < 0x20 then
      ['\\', 'u', '0', '0', Nat.digitChar (c.toNat / 16), Nat.digitChar (c.toNat % 16)]
    else [c]

def quoted (s : String) : List Char :=
  '"' :: s.toList.flatMap escaped ++ ['"']

def Number.chars (n : Number) : List Char :=
  (if n.negative then ['-'] else []) ++ Nat.toDigits 10 n.whole
    ++ (if n.fraction.isEmpty then [] else '.' :: n.fraction.map fun d => Nat.digitChar d.val)
    ++ match n.exponent with
      | none => []
      | some e => 'e' :: (toString e).toList

mutual

def compactChars : Json → List Char
  | .null => ['n', 'u', 'l', 'l']
  | .bool true => ['t', 'r', 'u', 'e']
  | .bool false => ['f', 'a', 'l', 's', 'e']
  | .number n => n.chars
  | .text s => quoted s
  | .array items => '[' :: compactItems items ++ [']']
  | .object members => '\x7b' :: compactMembers members ++ ['\x7d']

def compactItems : List Json → List Char
  | [] => []
  | [j] => compactChars j
  | j :: k :: rest => compactChars j ++ ',' :: compactItems (k :: rest)

def compactMembers : List (String × Json) → List Char
  | [] => []
  | [(key, j)] => quoted key ++ ':' :: compactChars j
  | (key, j) :: m :: rest =>
    quoted key ++ ':' :: compactChars j ++ ',' :: compactMembers (m :: rest)

end

def compact (j : Json) : String :=
  String.ofList j.compactChars

def newLine (level : Nat) : List Char :=
  '\n' :: List.replicate (2 * level) ' '

mutual

def indentedChars (level : Nat) : Json → List Char
  | .array [] => ['[', ']']
  | .array (j :: rest) =>
    '[' :: newLine (level + 1) ++ indentedItems (level + 1) (j :: rest) ++ newLine level ++ [']']
  | .object [] => ['\x7b', '\x7d']
  | .object (m :: rest) =>
    '\x7b' :: newLine (level + 1) ++ indentedMembers (level + 1) (m :: rest) ++ newLine level
      ++ ['\x7d']
  | .null => compactChars .null
  | .bool b => compactChars (.bool b)
  | .number n => compactChars (.number n)
  | .text s => compactChars (.text s)

def indentedItems (level : Nat) : List Json → List Char
  | [] => []
  | [j] => indentedChars level j
  | j :: k :: rest =>
    indentedChars level j ++ ',' :: newLine level ++ indentedItems level (k :: rest)

def indentedMembers (level : Nat) : List (String × Json) → List Char
  | [] => []
  | [(key, j)] => quoted key ++ ':' :: ' ' :: indentedChars level j
  | (key, j) :: m :: rest =>
    quoted key ++ ':' :: ' ' :: indentedChars level j ++ ',' :: newLine level
      ++ indentedMembers level (m :: rest)

end

def indented (j : Json) : String :=
  String.ofList (j.indentedChars 0)

end Json

end NetworkPolicy
