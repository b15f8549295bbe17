import NetworkPolicy.Json.Record

namespace NetworkPolicy.Json

inductive Tree where
  | null
  | bool (b : Bool)
  | number (n : Numeral)
  | text (s : String)
  | array (items : List Tree)
  | object (members : List (String × Tree))
  deriving Inhabited

namespace Reader

/-- Of two members with one key the later one counts. -/
def insertMember (key : String) (j : Tree) : List (String × Tree) → List (String × Tree)
  | [] => [(key, j)]
  | (k, i) :: rest =>
    if key < k then (key, j) :: (k, i) :: rest
    else if key = k then (key, j) :: rest
    else (k, i) :: insertMember key j rest

def membersFrom (value : Reader Tree) :
    Nat → Bool → List (String × Tree) → Reader (List (String × Tree))
  | 0, _, _ => failHere .endOfObject
  | fuel + 1, first, before => do
    if ← nextKey first then
      advance
      let key ← text
      colon
      let j ← value
      membersFrom value fuel false (insertMember key j before)
    else
      advance
      return before

/-- A tree has no more levels than its text has pieces. -/
def treeFrom : Nat → Reader Tree
  | 0 => failHere .endOfValue
  | fuel + 1 => do
    match ← next with
    | none => failHere .endOfValue
    | some (.char '[') =>
      advance
      return .array (← itemsFrom (treeFrom fuel) ((← get).rest.length + 1) [])
    | some (.char '\x7b') =>
      advance
      return .object (← membersFrom (treeFrom fuel) ((← get).rest.length + 1) true [])
    | some _ =>
      match ← unexpected with
      | .null | .sequence | .map => return .null
      | .bool b => return .bool b
      | .integer n => return .number (.integer n)
      | .float x => return .number (.float x)
      | .text s => return .text s

def tree : Reader Tree := do
  treeFrom ((← get).rest.length + 1)

end Reader

namespace Tree

def unexpected : Tree → Unexpected
  | null => .null
  | bool b => .bool b
  | number n => n.unexpected
  | text s => .text s
  | array _ => .sequence
  | object _ => .map

def asText : Tree → Except Cause String
  | text s => .ok s
  | j => .error (.wrongType j.unexpected "a string")

def asNat (name : String) (bound : Nat) : Tree → Except Cause Nat
  | number (.integer m) =>
    if 0 ≤ m ∧ m < bound then .ok m.toNat else .error (.wrongValue (.integer m) name)
  | j => .error (.wrongType j.unexpected name)

/-- A value with a name; the name may also be the only key of an object, with null there. -/
def asChoice {α : Type} (names : List (String × α)) : Tree → Except Cause α
  | text s => named s
  | object [(key, content)] => do
    let a ← named key
    match content with
    | null => return a
    | j => throw (.wrongType j.unexpected "unit")
  | object _ => .error (.wrongValue .map "map with a single key")
  | j => .error (.wrongType j.unexpected "string or map")
where
  named (s : String) : Except Cause α :=
    match names.lookup s with
    | some a => .ok a
    | none => .error (.unknownName s (names.map Prod.fst))

/-- A record all of whose fields may be missing, from an object or from a list of its fields. -/
def asRecord {σ : Type} (name : String) (fields : List (String × (σ → Tree → Except Cause σ)))
    (blank : σ) : Tree → Except Cause σ
  | object members =>
    members.foldlM (fun s (key, content) =>
      match fields.lookup key with
      | some read => read s content
      | none => .ok s) blank
  | array items => do
    let s ← (fields.zip items).foldlM (fun s (field, content) => field.2 s content) blank
    if fields.length < items.length then
      throw (.wrongLength items.length "fewer elements in array")
    return s
  | j => .error (.wrongType j.unexpected ("struct " ++ name))

end Tree

end NetworkPolicy.Json
