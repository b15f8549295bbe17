import NetworkPolicy.Json.Tree
import NetworkPolicy.Settings
import NetworkPolicy.Sql.Opening
import NetworkPolicy.Url

namespace NetworkPolicy

structure Connections where
  dialect : Sql.Dialect
  inMemory : Bool
  most : UInt32
  least : UInt32
  deriving DecidableEq, Inhabited

inductive Obstacle where
  | url (fault : Url.Fault)
  | unknownScheme (scheme : String)
  | location (fault : Sql.Location.Fault)
  | engine (fault : Sql.Fault)
  /-- The database is that of a server. -/
  | server
  /-- No clock counts as far as the time to wait. -/
  | endlessWait
  deriving DecidableEq, Inhabited

namespace Obstacle

def configuration (detail : String) : String :=
  "error with configuration: " ++ detail

def message : Obstacle → String
  | url fault => configuration fault.message
  | unknownScheme scheme => configuration ("no driver found for URL scheme " ++ Text.quote scheme)
  | location fault => configuration fault.message
  | engine fault => fault.message
  | server => Sql.Fault.poolTimedOut.message
  | endlessWait => "overflow when adding duration to instant"

end Obstacle

namespace DatabaseSettings

open Json.Tree (asText asNat asChoice asRecord) in
def ofTree (j : Json.Tree) : Except Json.Cause DatabaseSettings :=
  asRecord record.name [
    ("dialect", fun s j => return { s with dialect := ← asChoice Sql.Dialect.names j }),
    ("url", fun s j => return { s with url := ← asText j }),
    ("max_open_connections", fun s j =>
      return { s with openConnections := (← asNat "u32" UInt32.size j).toUInt32 }),
    ("max_idle_connections", fun s j =>
      return { s with idleConnections := (← asNat "u32" UInt32.size j).toUInt32 }),
    ("connect_timeout_secs", fun s j =>
      return { s with timeout := (← asNat "u64" UInt64.size j).toUInt64 })]
    record.blank j

def serverSchemes : List String :=
  ["postgres", "postgresql", "mysql", "mariadb"]

/-- Clocks count 63 bits of seconds. -/
def longestWait : Nat :=
  UInt64.size / 2

/-- A pool that must not wait gets no connection in time, whatever it is to connect to. -/
def obstacle (s : DatabaseSettings) : Option Obstacle :=
  if (Url.scheme? (Url.trimmed s.url)).any fun url => serverSchemes.contains url.1 then
    some .server
  else
    match Url.ofText s.url with
    | .error fault => some (.url fault)
    | .ok url =>
      if longestWait ≤ s.timeout.toNat then some .endlessWait
      else if s.timeout = 0 then some (.engine .poolTimedOut)
      else if url.scheme ≠ "sqlite" then some (.unknownScheme url.scheme)
      else
        match Sql.Location.ofText ("sqlite:".toList ++ url.body) with
        | .error fault => some (.location fault)
        | .ok location => location.fault?.map .engine

/-- A database in memory belongs to its one connection. Any other has as many connections as the
settings say, one at least, and never keeps more idle ones than may be open. A server is out of
reach. -/
def connect (s : DatabaseSettings) : Except Failure Connections :=
  match s.obstacle with
  | some obstacle =>
    .error (.settings ("connect to " ++ s.dialect.name ++ " database: " ++ obstacle.message))
  | none =>
    if s.isInMemory then .ok ⟨s.dialect, true, 1, 1⟩
    else .ok ⟨s.dialect, false, max s.openConnections 1, min s.idleConnections s.openConnections⟩

end DatabaseSettings

end NetworkPolicy
