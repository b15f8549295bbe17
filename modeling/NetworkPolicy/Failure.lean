import NetworkPolicy.Json.Error
import NetworkPolicy.Sql.Fault

namespace NetworkPolicy

inductive FileFault where
  | missing
  | notText
  | other (detail : String)
  deriving DecidableEq, Inhabited

def FileFault.message : FileFault → String
  | missing => "No such file or directory (os error 2)"
  | notText => "stream did not contain valid UTF-8"
  | other detail => detail

inductive Failure where
  | tagLength (bytes : Nat)
  | settings (detail : String)
  /-- Every slot of the pool is claimed. -/
  | poolExhausted
  /-- Slots are free, but other transactions hold them. -/
  | slotsHeld
  | notFound
  | notBegun (fault : Sql.Fault)
  | notCommitted (fault : Sql.Fault)
  /-- Nothing here fails so: to roll back is taken to succeed. -/
  | notRolledBack (fault : Sql.Fault) (cause : Failure)
  | migration (id : String) (fault : Sql.Fault)
  | stage (name : String) (source : Failure)
  | unreadable (column : String) (value : Int)
  | sql (fault : Sql.Fault)
  | file (fault : FileFault)
  | settingsText (error : Json.Error)
  deriving Inhabited

namespace Failure

def message : Failure → String
  | tagLength bytes => "tag length out of range (1-3): " ++ toString bytes
  | settings detail => "config error: " ++ detail
  | poolExhausted => "failed to find available tag"
  | slotsHeld => "free tags are held by concurrent transactions"
  | notFound => "record not found"
  | notBegun fault => "begin transaction: " ++ fault.message
  | notCommitted fault => "commit transaction: " ++ fault.message
  | notRolledBack fault cause =>
    "database rollback: " ++ fault.message ++ " (sql error: " ++ cause.message ++ ")"
  | migration id fault => "migration " ++ id ++ ": " ++ fault.message
  | stage name source => name ++ ": " ++ source.message
  | unreadable column value => "invalid " ++ column ++ " value: " ++ toString value
  | sql fault => fault.message
  | file fault => "IO error: " ++ fault.message
  | settingsText error => "parse config: " ++ error.message

/-- The messages of what lies directly below, then below that, down to the bottom. What a failed
rollback was for is not below it. -/
def chain : Failure → List String
  | notBegun fault | notCommitted fault | notRolledBack fault _ | migration _ fault =>
    [fault.message]
  | stage _ source => source.message :: source.chain
  | file fault => [fault.message]
  | settingsText error => [error.message]
  | _ => []

/-- What is left when every wrapper is taken off. -/
def root : Failure → Failure
  | stage _ source => source.root
  | notRolledBack _ cause => cause.root
  | f => f

def isNotFound : Failure → Bool
  | notFound => true
  | stage _ source => source.isNotFound
  | notRolledBack _ cause => cause.isNotFound
  | _ => false

def isPoolExhausted : Failure → Bool
  | poolExhausted => true
  | stage _ source => source.isPoolExhausted
  | notRolledBack _ cause => cause.isPoolExhausted
  | _ => false

/-- The whole transaction may succeed when it is tried again. -/
def isContended : Failure → Bool
  | slotsHeld => true
  | stage _ source => source.isContended
  | notRolledBack _ cause => cause.isContended
  | _ => false

def isSettings : Failure → Bool
  | tagLength _ | settings _ => true
  | stage _ source => source.isSettings
  | notRolledBack _ cause => cause.isSettings
  | _ => false

end Failure

inductive Blame where
  | client
  | server
  deriving DecidableEq, Inhabited

def Blame.status : Blame → Nat
  | client => 400
  | server => 500

/-- An exhausted pool is the client's fault through all wrappers, a bad tag length only bare. -/
def Failure.blame (f : Failure) : Blame :=
  if f.isPoolExhausted then .client
  else
    match f with
    | tagLength _ => .client
    | _ => .server

end NetworkPolicy
