import NetworkPolicy.Json.Record
import NetworkPolicy.Sql.Dialect

namespace NetworkPolicy

open Json (Record Field Codec)

structure DatabaseSettings where
  dialect : Sql.Dialect := .postgres
  url : String := "postgres://localhost/network_policy"
  openConnections : UInt32 := 200
  idleConnections : UInt32 := 10
  /-- Seconds to wait for a connection. -/
  timeout : UInt64 := 30
  deriving DecidableEq, Inhabited

structure Settings where
  tagLength : UInt64 := 1
  database : DatabaseSettings := {}
  deriving DecidableEq, Inhabited

def DatabaseSettings.record : Record DatabaseSettings where
  name := "DatabaseConfig"
  blank := {}
  fields := [
    .defaulted "dialect" Sql.Dialect.codec dialect fun a s => { s with dialect := a },
    .defaulted "url" .text url fun a s => { s with url := a },
    .defaulted "max_open_connections" .uint32 openConnections fun a s =>
      { s with openConnections := a },
    .defaulted "max_idle_connections" .uint32 idleConnections fun a s =>
      { s with idleConnections := a },
    .defaulted "connect_timeout_secs" (.uint64 "u64") timeout fun a s => { s with timeout := a }]

/-- A database that lives no longer than its connection. -/
def DatabaseSettings.isInMemory (s : DatabaseSettings) : Bool :=
  s.dialect = .sqlite && s.url.contains ":memory:"

/-- The settings for people to read. The url may hold a password and is not shown. -/
def DatabaseSettings.describe (s : DatabaseSettings) : String :=
  "DatabaseConfig \x7b dialect: " ++ s.dialect.title ++ ", url: " ++ Text.quote "[REDACTED]"
    ++ ", max_open_connections: " ++ toString s.openConnections.toNat
    ++ ", max_idle_connections: " ++ toString s.idleConnections.toNat
    ++ ", connect_timeout_secs: " ++ toString s.timeout.toNat ++ " \x7d"

namespace Settings

def record : Record Settings where
  name := "StoreConfig"
  blank := {}
  fields := [
    .defaulted "tag_length" (.uint64 "usize") tagLength fun a s => { s with tagLength := a },
    .defaulted "database" DatabaseSettings.record.codec database fun a s =>
      { s with database := a }]

def describe (s : Settings) : String :=
  "StoreConfig \x7b tag_length: " ++ toString s.tagLength.toNat ++ ", database: "
    ++ s.database.describe ++ " \x7d"

/-- Settings from the content of a file, if there is one. -/
def load (file : Option ByteArray) : Except Failure Settings :=
  match file with
  | none => .error (.file .missing)
  | some bytes =>
    match String.fromUTF8? bytes with
    | none => .error (.file .notText)
    | some s => (record.codec.parse s).mapError .settingsText

/-- The content of the file for the settings; it can only be written where there is a folder. -/
def save (s : Settings) (folder : Bool) : Except Failure String :=
  if folder then .ok (record.codec.write s).indented else .error (.file .missing)

end Settings

end NetworkPolicy
