import NetworkPolicy.Sql.Fault
import NetworkPolicy.Text.Broken
import NetworkPolicy.Text.Digit
import NetworkPolicy.Text.Printable

namespace NetworkPolicy.Sql

open Text (percentDecoded ofBytes mended symbols)

/-- What may be done with the file: nothing at all, reading, writing, or also making it. -/
inductive Access where
  | none
  | read
  | write
  | make
  deriving DecidableEq, Inhabited

structure Location where
  name : String
  access : Access := .write
  inMemory : Bool := false
  immutable : Bool := false
  /-- The file system of the engine, if not the usual one. -/
  system : Option String := .none
  deriving DecidableEq, Inhabited

namespace Location

inductive Fault where
  | badName (flaw : Text.Flaw)
  | unknownParameter (name : String)
  | unknownValue (value parameter : String)
  deriving DecidableEq, Inhabited

def Fault.message : Fault → String
  | badName flaw => flaw.message
  | unknownParameter name =>
    "unknown query parameter `" ++ name ++ "` while parsing connection URL"
  | unknownValue value parameter =>
    "unknown value " ++ Text.quote value ++ " for `" ++ parameter ++ "`"

/-- A part of a form: plus signs are blanks, and what is no text is mended. -/
def formText (bytes : List UInt8) : String :=
  let spaced := bytes.map fun b => if b = '+'.toUInt8 then ' '.toUInt8 else b
  String.ofList (mended (symbols (percentDecoded spaced).toByteArray))

def cutAt (b : UInt8) (bytes : List UInt8) : List UInt8 × List UInt8 :=
  (bytes.takeWhile (· ≠ b), (bytes.dropWhile (· ≠ b)).drop 1)

def pairs (bytes : List UInt8) : List (List UInt8 × List UInt8) :=
  ((bytes.splitOn '&'.toUInt8).filter (!·.isEmpty)).map (cutAt '='.toUInt8)

/-- The location with one more parameter; a later one counts more than an earlier one, but what was
opened to less once stays so. -/
def with? (l : Location) (name value : String) : Except Fault Location :=
  match name, value with
  | "mode", "ro" => .ok { l with access := .read }
  | "mode", "rw" => .ok l
  | "mode", "rwc" => .ok { l with access := if l.access = .read then .read else .make }
  | "mode", "memory" => .ok { l with inMemory := true }
  | "cache", "private" | "cache", "shared" => .ok l
  | "immutable", "true" | "immutable", "1" => .ok { l with immutable := true }
  | "immutable", "false" | "immutable", "0" => .ok { l with immutable := false }
  | "vfs", system => .ok { l with system := some system }
  | "mode", _ | "cache", _ | "immutable", _ => .error (.unknownValue value name)
  | _, _ => .error (.unknownParameter name)

def trimFront (front : List Char) : Nat → List Char → List Char
  | 0, cs => cs
  | fuel + 1, cs =>
    if front.isPrefixOf cs then trimFront front fuel (cs.drop front.length) else cs

/-- A location from a text that may name the engine as a scheme. -/
def ofText (cs : List Char) : Except Fault Location := do
  let cs := trimFront "sqlite://".toList cs.length cs
  let cs := trimFront "sqlite:".toList cs.length cs
  let (name, parameters) := cutAt '?'.toUInt8 (String.ofList cs).toUTF8.toList
  let start : Location ←
    if name = ":memory:".toUTF8.toList then
      pure { name := "file:in-memory", inMemory := true }
    else
      match ofBytes (percentDecoded name) with
      | .ok name => pure { name }
      | .error flaw => throw (.badName flaw)
  (pairs parameters).foldlM (fun l (name, value) => l.with? (formText name) (formText value)) start

end Location

end NetworkPolicy.Sql
