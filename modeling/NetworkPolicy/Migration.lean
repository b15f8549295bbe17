import NetworkPolicy.Work

namespace NetworkPolicy

/-- A change of the schema: how it is said, and what it does to the tables. -/
structure Migration.Statement where
  text : String
  run : Tables → Except Sql.Fault Tables

/-- A step that brings the schema up to date; each dialect has statements of its own. What they
leave behind can still be refused at the end of the transaction, as a reference is that is not
checked before. -/
structure Migration where
  id : String
  statements : Sql.Dialect → List Migration.Statement
  commit : Sql.Dialect → Tables → Except Sql.Fault Unit := fun _ _ => .ok ()

namespace Migration

open Work

namespace Statement

def onSchema (text : String) (change : Schema → Except Sql.Fault Schema) : Statement where
  text := text
  run t := do return { t with schema := ← change t.schema }

def harmless : Statement where
  text := "SELECT 1"
  run := .ok

def unreadable (word : String) : Statement where
  text := word
  run _ := .error (.unreadableNear word)

def narrowGroups (d : Sql.Dialect) : Statement :=
  onSchema (d.prepare "CREATE TABLE IF NOT EXISTS \"groups\" ( id INTEGER PRIMARY KEY )")
    fun s => .ok { s with groups := if s.groups = .absent then .idOnly else s.groups }

/-- From now on a slot that is given a guid is passed over as if it were held. -/
def ignoreClaims (d : Sql.Dialect) : Statement :=
  onSchema (d.prepare ("CREATE TRIGGER held_slots BEFORE UPDATE OF guid ON \"groups\" "
      ++ "WHEN NEW.guid IS NOT NULL BEGIN SELECT RAISE(IGNORE); END"))
    fun s => do
      s.demandInFull [.groups]
      return { s with claims := .ignored }

/-- From now on a guid that is given to a slot is cleared at once. -/
def undoClaims (d : Sql.Dialect) : Statement :=
  onSchema (d.prepare ("CREATE TRIGGER lost_guids AFTER UPDATE OF guid ON \"groups\" "
      ++ "WHEN NEW.guid IS NOT NULL BEGIN "
      ++ "UPDATE \"groups\" SET guid = NULL WHERE id = NEW.id; END"))
    fun s => do
      s.demandInFull [.groups]
      return { s with claims := if s.claims = .ignored then .ignored else .undone }

end Statement

def openRecord : Work (List String) := do
  let d := (← get).database
  let ids := d.recorded.getD []
  modify fun s => { s with database := { d with recorded := some ids } }
  return ids

/-- Records a step; no step is recorded twice. -/
def record (id : String) : Work Unit := do
  let ids ← openRecord
  if id ∈ ids then throw (.sql (.repeatedIdentity "schema_migrations.id"))
  modify fun s => { s with database := { s.database with recorded := some (ids ++ [id]) } }

def runStatement (id : String) (s : Statement) : Work Unit := do
  match s.run (← tables) with
  | .ok t => setTables t
  | .error fault => throw (.migration id fault)

def conclude (m : Migration) (d : Sql.Dialect) : Work Unit := do
  match m.commit d (← tables) with
  | .ok () => return ()
  | .error fault => throw (.notCommitted fault)

def apply (d : Sql.Dialect) (m : Migration) : Work Unit :=
  transact do
    (m.statements d).forM (runStatement m.id)
    record m.id
    m.conclude d

/-- The steps that are not in `recorded`, in order, up to the limit; zero is no limit. The result
counts them, after the `count` before. -/
def applyPending (d : Sql.Dialect) (recorded : List String) (limit : Nat) :
    List Migration → Nat → Work Nat
  | [], count => return count
  | m :: rest, count =>
    if m.id ∈ recorded then applyPending d recorded limit rest count
    else if 0 < limit ∧ limit ≤ count then return count
    else do
      m.apply d
      applyPending d recorded limit rest (count + 1)

/-- Brings the schema up to date; the record is read once, before the first step. -/
def perform (d : Sql.Dialect) (migrations : List Migration) (limit : Nat) : Work Nat := do
  connected
  let recorded ← openRecord
  applyPending d recorded limit migrations 0

end Migration

/-- What brings a schema up to date, given the dialect and a limit. -/
abbrev Migrator := Sql.Dialect → Nat → Work Nat

def Migrator.ofList (migrations : List Migration) : Migrator := fun d limit =>
  Migration.perform d migrations limit

end NetworkPolicy
