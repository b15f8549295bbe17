import NetworkPolicy.Address
import NetworkPolicy.Text.Broken
import NetworkPolicy.Text.Direction
import NetworkPolicy.Text.Folded
import NetworkPolicy.Text.Digit
import NetworkPolicy.Text.Printable
import NetworkPolicy.Url.Punycode

namespace NetworkPolicy.Url

open Text (within isMark isShown isFolded pieces number decimalDigit? hexDigit?)

inductive Fault where
  | noScheme
  | noHost
  | badDomain
  | badHostCharacter
  | badV4
  | badV6
  | badPort
  deriving DecidableEq, Inhabited

def Fault.message : Fault → String
  | noScheme => "relative URL without a base"
  | noHost => "empty host"
  | badDomain => "invalid international domain name"
  | badHostCharacter => "invalid domain character"
  | badV4 => "invalid IPv4 address"
  | badV6 => "invalid IPv6 address"
  | badPort => "invalid port number"

/-- Characters that names pass over. -/
def ignoredRuns : List (Nat × Nat) := [
  (0xad, 0xad), (0x34f, 0x34f), (0x115f, 0x1160), (0x17b4, 0x17b5), (0x180b, 0x180f),
  (0x200b, 0x200b), (0x2060, 0x2064), (0x206a, 0x206f), (0x3164, 0x3164), (0xfe00, 0xfe0f),
  (0xfeff, 0xfeff), (0xffa0, 0xffa0), (0x1bca0, 0x1bca3), (0x1d173, 0x1d17a),
  (0xe0100, 0xe01ef)]

/-- Visible characters that no name has: parts of ideographs, and what would read as a point or as
another sign that is barred. -/
def refusedRuns : List (Nat × Nat) := [
  (0xa8, 0xa8), (0xaf, 0xaf), (0xb4, 0xb4), (0xb8, 0xb8), (0x2d8, 0x2dd), (0x37a, 0x37a),
  (0x384, 0x385), (0x1fbd, 0x1fbd), (0x1fbf, 0x1fc1), (0x1fcd, 0x1fcf), (0x1fdd, 0x1fdf),
  (0x1fed, 0x1fee), (0x1ffd, 0x1ffe), (0x2017, 0x2017), (0x2024, 0x2026), (0x203e, 0x203e),
  (0x2047, 0x2049), (0x2100, 0x2101), (0x2105, 0x2106), (0x2488, 0x249b), (0x2a74, 0x2a74),
  (0x2ff0, 0x2fff), (0x309b, 0x309c), (0x31ef, 0x31ef), (0x33c2, 0x33c2), (0x33c7, 0x33c7),
  (0x33d8, 0x33d8), (0xfc5e, 0xfc63), (0xfdfa, 0xfdfb), (0xfe12, 0xfe13), (0xfe16, 0xfe16),
  (0xfe19, 0xfe19), (0xfe30, 0xfe30), (0xfe47, 0xfe4c), (0xfe52, 0xfe52), (0xfe55, 0xfe56),
  (0xfe5f, 0xfe5f), (0xfe64, 0xfe65), (0xfe68, 0xfe68), (0xfe6a, 0xfe6b), (0xfe70, 0xfe70),
  (0xfe72, 0xfe72), (0xfe74, 0xfe74), (0xfe76, 0xfe76), (0xfe78, 0xfe78), (0xfe7a, 0xfe7a),
  (0xfe7c, 0xfe7c), (0xfe7e, 0xfe7e), (0xffe3, 0xffe3), (0xfffc, 0xfffd), (0x1f100, 0x1f100)]

/-- A character that is a mark or begins with one when it is taken apart. -/
def leansBack (c : Char) : Bool :=
  isMark c || within [(0xe33, 0xe33), (0xeb3, 0xeb3), (0xff9e, 0xff9f)] c

def isJoiner (c : Char) : Bool :=
  within [(0x200c, 0x200d)] c

/-- Signs of a missing vowel, after which a joiner may stand. -/
def vowelKillers : List Nat := [
  0x94d, 0x9cd, 0xa4d, 0xacd, 0xb4d, 0xbcd, 0xc4d, 0xccd, 0xd3b, 0xd3c, 0xd4d, 0xdca, 0xe3a, 0xeba,
  0xf84, 0x1039, 0x103a, 0x1714, 0x1715, 0x1734, 0x17d2, 0x1a60, 0x1b44, 0x1baa, 0x1bab, 0x1bf2,
  0x1bf3, 0x2d7f, 0xa806, 0xa82c, 0xa8c4, 0xa953, 0xa9c0, 0xaaf6, 0xabed, 0x10a3f, 0x11046,
  0x11070, 0x1107f, 0x110b9, 0x11133, 0x11134, 0x111c0, 0x11235, 0x112ea, 0x1134d, 0x11442,
  0x114c2, 0x115bf, 0x1163f, 0x116b6, 0x1172b, 0x11839, 0x1193d, 0x1193e, 0x119e0, 0x11a34,
  0x11a47, 0x11a99, 0x11c3f, 0x11d44, 0x11d45, 0x11d97, 0x11f41, 0x11f42]

/-- Runs of characters that stand for ASCII letters and digits, with the first of those and how many
there are before they start over. -/
def asciiForms : List (Nat × Nat × Nat × Nat) := [
  (0xb2, 0xb3, 0x32, 10), (0xb9, 0xb9, 0x31, 10), (0x2070, 0x2070, 0x30, 10),
  (0x2074, 0x2079, 0x34, 10), (0x2080, 0x2089, 0x30, 10), (0x2460, 0x2468, 0x31, 10),
  (0x24b6, 0x24e9, 0x61, 26), (0x24ea, 0x24ea, 0x30, 10), (0xff01, 0xff20, 0x21, 32),
  (0xff21, 0xff3a, 0x61, 26), (0xff3b, 0xff5e, 0x5b, 36), (0x1ccd6, 0x1ccef, 0x61, 26),
  (0x1ccf0, 0x1ccf9, 0x30, 10), (0x1d400, 0x1d6a3, 0x61, 26), (0x1d7ce, 0x1d7ff, 0x30, 10),
  (0x1f130, 0x1f149, 0x61, 26), (0x1fbf0, 0x1fbf9, 0x30, 10)]

def asciiForm? (c : Char) : Option Char :=
  (asciiForms.find? fun (first, last, _) => first ≤ c.toNat && c.toNat ≤ last).map
    fun (first, _, start, size) => Char.ofNat (start + (c.toNat - first) % size)

def compared (c : Char) : List Char :=
  if c.toNat < 0x80 then [c.toLower]
  else if within ignoredRuns c then []
  else if within [(0x3002, 0x3002), (0xff61, 0xff61)] c then ['.']
  else [(asciiForm? c).getD c]

def isBarred (c : Char) : Bool :=
  c.toNat ≤ 0x20 || c = '\x7f' || "%#/:<>?@[\\]^|".toList.contains c

def isAllowed (c : Char) : Bool :=
  if c.toNat < 0x80 then !isBarred c
  else (isShown c || isMark c || isJoiner c || within [(0xff9e, 0xff9f)] c)
    && !within refusedRuns c

/-- Every joiner follows a sign of a missing vowel; `before` is the character before the text. -/
def joinersFit (before : Char) : List Char → Bool
  | [] => true
  | c :: rest => (!isJoiner c || vowelKillers.contains before.toNat) && joinersFit c rest

def label? (cs : List Char) : Option (List Char) :=
  match cs with
  | 'x' :: 'n' :: '-' :: '-' :: coded =>
    if coded.isEmpty || coded.getLast? = some '-' || coded.any (0x80 ≤ ·.toNat) then none
    else do
      let cs ← Punycode.decode? coded
      if cs.all (fun c => isAllowed c && !isFolded c && !within ignoredRuns c) then spoken cs
      else none
  | cs => spoken cs
where
  spoken (cs : List Char) : Option (List Char) :=
    if cs.head?.any leansBack || !joinersFit ' ' cs then none else some cs

/-- A decimal, octal (after a zero) or hexadecimal number (after `0x`). -/
def number? (cs : List Char) : Option Nat :=
  match cs with
  | [] => none
  | '0' :: 'x' :: cs => (cs.mapM hexDigit?).map (number 16)
  | ['0'] => some 0
  | '0' :: cs =>
    (cs.mapM decimalDigit?).bind fun ds => if ds.all (· < 8) then some (number 8 ds) else none
  | cs => (cs.mapM decimalDigit?).map (number 10)

def closed (labels : List (List Char)) : List (List Char) :=
  if 1 < labels.length && labels.getLast? = some [] then labels.dropLast else labels

/-- Only an address has a number as its last label. -/
def endsInNumber (labels : List (List Char)) : Bool :=
  match (closed labels).getLast? with
  | none => false
  | some cs => (!cs.isEmpty && cs.all Char.isDigit) || (number? cs).isSome

/-- At most four numbers. The last one fills the bytes that the others, of one byte each, leave. -/
def isV4 (labels : List (List Char)) : Bool :=
  match (closed labels).mapM number? with
  | none => false
  | some numbers =>
    match numbers.reverse with
    | [] => false
    | last :: others =>
      others.length ≤ 3 && others.all (· < 256) && last < Nat.pow 256 (4 - others.length)

def domainFault? (cs : List Char) : Option Fault :=
  match Text.ofBytes (Text.percentDecoded (String.ofList cs).toUTF8.toList) with
  | .error _ => some .badDomain
  | .ok name =>
    let compared := name.toList.flatMap compared
    let labels := pieces '.' compared
    match labels.mapM label? with
    | none => some .badDomain
    | some spoken =>
      let isTwoWay := spoken.any fun l => l.any fun c =>
        Text.direction c = .right || Text.direction c = .arabicNumber
      if !compared.all isAllowed || (isTwoWay && !spoken.all Text.hasOneDirection) then
        some .badDomain
      else if compared.isEmpty then some .noHost
      else if endsInNumber labels && !isV4 labels then some .badV4
      else none

end NetworkPolicy.Url
