import NetworkPolicy.Url.Domain

namespace NetworkPolicy

open Text (pieces number decimalDigit?)

namespace Url

structure Authority where
  user : List Char
  host : List Char
  port : Option Nat

def Authority.text (a : Authority) : List Char :=
  (if a.user.isEmpty then [] else a.user ++ ['@']) ++ a.host
    ++ (match a.port with | none => [] | some n => ':' :: Nat.toDigits 10 n)

end Url

/-- The parts of a url, without the marks between them; `extra` is the query and the fragment, with
their marks. -/
structure Url where
  scheme : String
  authority : Option Url.Authority
  path : List Char
  extra : List Char

namespace Url

/-- The url after its scheme. A path that would read as an authority has a point put before it. -/
def body (u : Url) : List Char :=
  (match u.authority with
    | some a => '/' :: '/' :: a.text ++ u.path
    | none => if u.path.take 2 = ['/', '/'] then '/' :: '.' :: u.path else u.path)
  ++ u.extra

/-- A url counts without control characters and blanks around it and without line breaks and tabs
in it. -/
def trimmed (s : String) : List Char :=
  let isOuter (c : Char) : Bool := c.toNat ≤ 0x20
  (((s.toList.dropWhile isOuter).reverse.dropWhile isOuter).reverse).filter fun c =>
    c ≠ '\t' && c ≠ '\n' && c ≠ '\r'

/-- A letter, then letters, digits and three marks, up to a colon; and what follows the colon. -/
def scheme? (cs : List Char) : Option (String × List Char) :=
  let name := cs.takeWhile fun c => c.isAlphanum || c = '+' || c = '-' || c = '.'
  match cs.drop name.length with
  | ':' :: rest =>
    if name.head?.any Char.isAlpha then some (String.ofList (name.map Char.toLower), rest)
    else none
  | _ => none

/-- The schemes of the web, with the ports that need not be said. -/
def webPorts : List (String × Nat) :=
  [("http", 80), ("https", 443), ("ws", 80), ("wss", 443), ("ftp", 21)]

def isWeb (scheme : String) : Bool :=
  (webPorts.lookup scheme).isSome || scheme = "file"

def isSlash (web : Bool) (c : Char) : Bool :=
  c = '/' || (web && c = '\\')

def startsExtra (c : Char) : Bool :=
  c = '?' || c = '#'

def cutAtLast (c : Char) (cs : List Char) : Option (List Char) × List Char :=
  let after := (cs.reverse.takeWhile (· ≠ c)).reverse
  if after.length = cs.length then (none, cs)
  else (some (cs.take (cs.length - after.length - 1)), after)

def userText (cs : List Char) : List Char :=
  let name := cs.takeWhile (· ≠ ':')
  let password := cs.drop (name.length + 1)
  if password.isEmpty then name else name ++ ':' :: password

def hostPart (inside : Bool) : List Char → List Char
  | [] => []
  | c :: rest =>
    if c = ':' && !inside then []
    else c :: hostPart ((inside || c = '[') && c ≠ ']') rest

/-- Signs that no host has, whatever the scheme. -/
def isForeign (c : Char) : Bool :=
  ("\x00\t\n\r #/:<>?@[\\]^|".toList).contains c

def hostFault? (web : Bool) : List Char → Option Fault
  | '[' :: rest =>
    if rest.getLast? = some ']' && (Address.v6Value? rest.dropLast).isSome then none
    else some .badV6
  | cs =>
    if web then domainFault? cs
    else if cs.any isForeign then some .badHostCharacter
    else none

def port (scheme : String) (cs : List Char) : Except Fault (Option Nat × List Char) :=
  let digits := cs.takeWhile (· ≠ '\\')
  match digits.mapM decimalDigit? with
  | none => .error .badPort
  | some ds =>
    let n := number 10 ds
    if UInt16.size ≤ n then .error .badPort
    else if ds.isEmpty || webPorts.lookup scheme = some n then .ok (none, cs.drop digits.length)
    else .ok (some n, cs.drop digits.length)

/-- Segments that stand for the folder itself and for the one around it. -/
def dots (segment : List Char) : Option Nat :=
  let text := (String.ofList (segment.map Char.toLower)).replace "%2e" "."
  if text = "." then some 1 else if text = ".." then some 2 else none

def resolve : List (List Char) → List (List Char) → List (List Char)
  | before, [] => before
  | before, segment :: rest =>
    match dots segment with
    | none => resolve (before ++ [segment]) rest
    | some n =>
      let before := if n = 2 then before.dropLast else before
      resolve (if rest.isEmpty then before ++ [[]] else before) rest

def resolved (web : Bool) (cs : List Char) : List Char :=
  let cs := if web then cs.map fun c => if c = '\\' then '/' else c else cs
  (resolve [] (pieces '/' (cs.drop 1))).flatMap ('/' :: ·)

def withPath (scheme : String) (authority : Option Authority) (cs : List Char) : Url :=
  let path := cs.takeWhile (!startsExtra ·)
  let extra := cs.drop path.length
  let web := isWeb scheme
  match path with
  | [] => ⟨scheme, authority, if web then ['/'] else [], extra⟩
  | c :: _ => ⟨scheme, authority, resolved web (if isSlash web c then path else '/' :: path), extra⟩

def withAuthority (scheme : String) (cs : List Char) : Except Fault Url := do
  let web := isWeb scheme
  let all := cs.takeWhile fun c => !isSlash web c && !startsExtra c
  let after := cs.drop all.length
  let (user, place) := cutAtLast '@' all
  if user = some [] && place.isEmpty && !after.isEmpty then throw .noHost
  let user := userText (user.getD [])
  let host := hostPart false place
  if web && host.isEmpty then throw .noHost
  if let some fault := hostFault? web host then throw fault
  let rest := place.drop host.length
  if host.isEmpty && !rest.isEmpty then throw .noHost
  let (port, rest) ← port scheme (rest.drop 1)
  if host.isEmpty && !user.isEmpty then throw .noHost
  return withPath scheme (some ⟨user, host, port⟩) (rest ++ after)

/-- A letter and a colon or bar, which some systems put before a path. -/
def isDrive : List Char → Bool
  | [a, b] => a.isAlpha && (b = ':' || b = '|')
  | _ => false

def ofFile (cs : List Char) : Except Fault Url :=
  let host := (cs.drop 2).takeWhile fun c => !isSlash true c && !startsExtra c
  if (cs.take 2).length = 2 && (cs.take 2).all (isSlash true) && !isDrive host then
    let url := withPath "file" (some ⟨[], host, none⟩) (cs.drop (2 + host.length))
    if host.isEmpty then .ok url
    else
      match hostFault? true host with
      | some fault => .error fault
      | none => .ok url
  else .ok (withPath "file" none cs)

def ofText (s : String) : Except Fault Url :=
  match scheme? (trimmed s) with
  | none => .error .noScheme
  | some (scheme, rest) =>
    if scheme = "file" then ofFile rest
    else if isWeb scheme then withAuthority scheme (rest.dropWhile (isSlash true))
    else
      match rest with
      | '/' :: '/' :: rest => withAuthority scheme rest
      | '/' :: _ => .ok (withPath scheme none rest)
      | _ =>
        let path := rest.takeWhile (!startsExtra ·)
        .ok ⟨scheme, none, path, rest.drop path.length⟩

end Url

end NetworkPolicy
