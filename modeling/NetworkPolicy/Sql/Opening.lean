import NetworkPolicy.Sql.Location

namespace NetworkPolicy.Sql

open Text (percentDecoded mended symbols)

def Access.rank : Access → Nat
  | none => 0
  | read => 1
  | write => 2
  | make => 6

structure Opening where
  access : Access
  inMemory : Bool
  system : Option (List UInt8) := none
  deriving DecidableEq, Inhabited

namespace Opening

open Location (cutAt pairs)

def shown (bytes : List UInt8) : String :=
  String.ofList (mended (symbols bytes.toByteArray))

/-- What may be done with a file in memory comes after all that may be done with one on disk. -/
def limit (o : Opening) : Nat :=
  o.access.rank + (if o.inMemory then 128 else 0)

def mode? : String → Option (Access × Bool)
  | "ro" => some (.read, false)
  | "rw" => some (.write, false)
  | "rwc" => some (.make, false)
  | "memory" => some (.none, true)
  | _ => none

/-- One more parameter of the engine. A mode cannot allow more than was allowed before. -/
def with? (o : Opening) (name value : List UInt8) : Except Fault Opening :=
  match shown name with
  | "vfs" => .ok { o with system := some value }
  | "cache" =>
    if shown value = "shared" || shown value = "private" then .ok o
    else .error (.unknownMode "cache" (shown value))
  | "mode" =>
    match mode? (shown value) with
    | none => .error (.unknownMode "access" (shown value))
    | some (access, inMemory) =>
      if o.limit < access.rank then .error (.modeNotAllowed (shown value))
      else .ok { o with access, inMemory }
  | _ => .ok o

def decoded (bytes : List UInt8) : List UInt8 :=
  (percentDecoded bytes).takeWhile (· ≠ 0)

/-- Parameters without a name do not count, nor does anything after a number sign. -/
def parameters (bytes : List UInt8) : List (List UInt8 × List UInt8) :=
  ((pairs (cutAt '#'.toUInt8 bytes).1).map fun (name, value) => (decoded name, decoded value)).filter
    (!·.1.isEmpty)

def systems : List String :=
  ["unix", "unix-none", "unix-dotfile", "unix-excl", "memdb"]

/-- No file is there yet, and no folder but the working one, so a file can only be made there. One
without a name is temporary, and can always be had. -/
def start (o : Opening) (name : List UInt8) : Option Fault :=
  let system := o.system.map shown
  let isKept := o.inMemory || system = some "memdb" || name.isEmpty || shown name = ":memory:"
  let isPlain := !name.contains '/'.toUInt8 && shown name ≠ "." && shown name ≠ ".."
  match system.filter (!systems.contains ·) with
  | some system => some (.unknownSystem system)
  | none => if isKept || (o.access = .make && isPlain) then none else some .cannotOpen

def startWith (o : Opening) (name query : List UInt8) : Option Fault :=
  match (parameters query).foldlM (fun (o : Opening) (name, value) => o.with? name value) o with
  | .error fault => some fault
  | .ok o => o.start name

def host? (bytes : List UInt8) : Option (List UInt8) × List UInt8 :=
  let rest := bytes.drop 2
  if bytes.take 2 = "//".toUTF8.toList then
    (some (rest.takeWhile (· ≠ '/'.toUInt8)), rest.dropWhile (· ≠ '/'.toUInt8))
  else (none, bytes)

def startFile (o : Opening) (bytes : List UInt8) : Option Fault :=
  let (host, rest) := host? bytes
  match host.filter fun h => !h.isEmpty && shown h ≠ "localhost" with
  | some host => some (.unknownHost (shown host))
  | none =>
    let (name, query) := cutAt '?'.toUInt8 (cutAt '#'.toUInt8 rest).1
    o.startWith (decoded name) query

end Opening

/-- What keeps the database at a location from being opened. A location with parameters for the
engine is handed over as a name that begins with `file:`. -/
def Location.fault? (l : Location) : Option Sql.Fault :=
  let o : Opening := ⟨l.access, l.inMemory, none⟩
  let name := l.name.toUTF8.toList
  let parameters := (if l.immutable then ["immutable=true"] else [])
    ++ (l.system.map ("vfs=" ++ ·)).toList
  let query := ("&".intercalate parameters).toUTF8.toList
  if parameters.isEmpty then
    if name.contains 0 then some .nulInName
    else if "file:".toUTF8.toList.isPrefixOf name then o.startFile (name.drop 5)
    else o.start name
  else if query.contains 0 then some .nulInName
  else o.startWith (name.takeWhile (· ≠ 0)) query

end NetworkPolicy.Sql
