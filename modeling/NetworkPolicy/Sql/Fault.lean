namespace NetworkPolicy.Sql

inductive Fault where
  | poolClosed
  | poolTimedOut
  | rowNotFound
  | workerCrashed
  | protocol (detail : String)
  | missingTable (table : String)
  | missingColumn (table column : String)
  | unknownColumn (column : String)
  | unreadableNear (token : String)
  | cannotOpen
  | nulInName
  | unknownSystem (name : String)
  | unknownHost (host : String)
  | unknownMode (kind value : String)
  | modeNotAllowed (value : String)
  | danglingReference
  | repeatedIdentity (column : String)
  | repeatedColumns (columns : List String)
  deriving DecidableEq, Inhabited

namespace Fault

/-- Faults that the engine itself reports have a number. -/
def reported (code : Nat) (detail : String) : String :=
  "error returned from database: (code: " ++ toString code ++ ") " ++ detail

def message : Fault → String
  | poolClosed => "attempted to acquire a connection on a closed pool"
  | poolTimedOut => "pool timed out while waiting for an open connection"
  | rowNotFound => "no rows returned by a query that expected to return at least one row"
  | workerCrashed => "attempted to communicate with a crashed background worker"
  | protocol detail => "encountered unexpected or invalid data: " ++ detail
  | missingTable table => reported 1 ("no such table: " ++ table)
  | missingColumn table column =>
    reported 1 ("table " ++ table ++ " has no column named " ++ column)
  | unknownColumn column => reported 1 ("no such column: " ++ column)
  | unreadableNear token => reported 1 ("near \"" ++ token ++ "\": syntax error")
  | cannotOpen => reported 14 "unable to open database file"
  | nulInName =>
    "error communicating with database: filename passed to SQLite must not contain nul bytes"
  | unknownSystem name => reported 1 ("no such vfs: " ++ name)
  | unknownHost host => reported 1 ("invalid uri authority: " ++ host)
  | unknownMode kind value => reported 1 ("no such " ++ kind ++ " mode: " ++ value)
  | modeNotAllowed value => reported 3 ("access mode not allowed: " ++ value)
  | danglingReference => reported 787 "FOREIGN KEY constraint failed"
  | repeatedIdentity column => reported 1555 ("UNIQUE constraint failed: " ++ column)
  | repeatedColumns columns =>
    reported 2067 ("UNIQUE constraint failed: " ++ ", ".intercalate columns)

end Fault

end NetworkPolicy.Sql
