import NetworkPolicy.Failure
import NetworkPolicy.Sql.Dialect
import NetworkPolicy.Tables.Rows

namespace NetworkPolicy

/-- The tables, and the schema steps that are recorded as done, once there is a record of them. -/
structure Database where
  tables : Tables := {}
  recorded : Option (List String) := none
  deriving DecidableEq, Inhabited

inductive Operation where
  | claim
  | lookup
  | release
  | findOrCreate
  | findDestination
  | removeDestination
  | countReferencing
  | addPolicy
  | removePolicy
  | countByDestination
  | countByGroup
  | addRange
  | dropRange
  deriving DecidableEq, Inhabited

/-- The call of an operation that fails, after `before` calls that do not. -/
structure Interruption where
  operation : Operation
  before : Nat
  failure : Failure
  deriving Inhabited

/-- Interruptions of one operation come one after the other. They are used up even by work that is
undone. -/
abbrev Plan := List Interruption

/-- What a call of the operation meets, and the plan after it. -/
def Plan.call (op : Operation) : Plan → Option Failure × Plan
  | [] => (none, [])
  | i :: rest =>
    if i.operation = op then
      match i.before with
      | 0 => (some i.failure, rest)
      | n + 1 => (none, { i with before := n } :: rest)
    else
      let (met, rest) := Plan.call op rest
      (met, i :: rest)

/-- One connection. `requests` are the migrations asked for, with their dialect and limit. -/
structure Session where
  dialect : Sql.Dialect := .sqlite
  database : Database := {}
  closed : Bool := false
  plan : Plan := []
  requests : List (Sql.Dialect × Nat) := []
  deriving Inhabited

abbrev Work (α : Type) := ExceptT Failure (StateM Session) α

namespace Work

variable {α : Type}

def staged (name : String) (w : Work α) : Work α :=
  tryCatch w fun f => throw (.stage name f)

def connected : Work Unit := do
  if (← get).closed then throw (.sql .poolClosed)

def attempt (r : Except Failure α) : Work α :=
  match r with
  | .ok a => return a
  | .error f => throw f

def tables : Work Tables := do
  return (← get).database.tables

def setTables (t : Tables) : Work Unit :=
  modify fun s => { s with database := { s.database with tables := t } }

/-- A statement is refused when the schema lacks something, and changes nothing when it fails. -/
def statement (demands : Schema → Except Sql.Fault Unit)
    (run : Tables → Except Sql.Fault (α × Tables)) : Work α := do
  let t ← tables
  match demands t.schema with
  | .error fault => throw (.sql fault)
  | .ok () =>
    match run t with
    | .error fault => throw (.sql fault)
    | .ok (a, t) =>
      setTables t
      return a

def query (demands : Schema → Except Sql.Fault Unit) (read : Tables → α) : Work α :=
  statement demands fun t => .ok (read t, t)

def update (demands : Schema → Except Sql.Fault Unit) (write : Tables → Except Sql.Fault Tables) :
    Work Unit :=
  statement demands fun t => (write t).map ((), ·)

/-- Begins a transaction; the result is what to go back to. -/
def begin : Work Database := do
  if (← get).closed then throw (.notBegun .poolClosed)
  return (← get).database

def rollBack (saved : Database) : Work Unit :=
  modify fun s => { s with database := saved }

/-- Work that is done wholly or not at all. To commit it and to roll it back are taken to succeed,
as for batches, tags and slots, which leave nothing to be checked at the end; work that can be
refused then, such as a step of the schema, ends with that check. -/
def transact (w : Work α) : Work α := do
  let saved ← begin
  tryCatch w fun f => do
    rollBack saved
    throw f

def call (op : Operation) (w : Work α) : Work α := do
  let (met, plan) := (← get).plan.call op
  modify fun s => { s with plan }
  match met with
  | some f => throw f
  | none => w

end Work

end NetworkPolicy
