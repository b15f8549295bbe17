import NetworkPolicy.Failure
import NetworkPolicy.Json.Codec

namespace NetworkPolicy.Sql

inductive Dialect where
  | postgres
  | mysql
  | sqlite
  deriving DecidableEq, Inhabited

namespace Dialect

def name : Dialect → String
  | postgres => "postgres"
  | mysql => "mysql"
  | sqlite => "sqlite"

def title : Dialect → String
  | postgres => "Postgres"
  | mysql => "Mysql"
  | sqlite => "Sqlite"

/-- Settings spell a dialect by its name; one has a second name on command lines. -/
def ofName (s : String) : Except Failure Dialect :=
  match s with
  | "postgres" | "postgresql" => .ok postgres
  | "mysql" => .ok mysql
  | "sqlite" => .ok sqlite
  | _ => .error (.settings ("unsupported sql dialect: " ++ s))

def names : List (String × Dialect) :=
  [postgres, mysql, sqlite].map fun d => (d.name, d)

def codec : Json.Codec Dialect :=
  .choice names name

def decimal (n : Int) : List Char :=
  (if n < 0 then ['-'] else []) ++ Nat.toDigits 10 n.natAbs

/-- Numbers the placeholders from `n + 1` on. They are counted in 32 bits, and the count wraps
around. -/
def numbered (n : Int32) : List Char → List Char
  | [] => []
  | c :: rest =>
    if c = '?' then '$' :: decimal (n + 1).toInt ++ numbered (n + 1) rest
    else c :: numbered n rest

def backticked (query : List Char) : List Char :=
  query.map fun c => if c = '"' then '\x60' else c

def prepare (d : Dialect) (query : String) : String :=
  match d with
  | postgres => String.ofList (numbered 0 query.toList)
  | mysql => String.ofList (backticked query.toList)
  | sqlite => query

/-- An insertion that leaves rows alone which are already there. -/
def insertIgnore (d : Dialect) (table : String) (columns : List String) : String :=
  let row := table ++ " (" ++ ", ".intercalate columns ++ ") VALUES ("
    ++ ", ".intercalate (columns.map fun _ => "?") ++ ")"
  match d with
  | postgres => "INSERT INTO " ++ row ++ " ON CONFLICT DO NOTHING"
  | mysql => "INSERT IGNORE INTO " ++ row
  | sqlite => "INSERT OR IGNORE INTO " ++ row

/-- Gives the lowest free slot to a guid. Where rows can be locked, locked ones are passed over;
where a table cannot be read while it is changed, the change itself is ordered. -/
def claimSlot : Dialect → String
  | postgres => "UPDATE \"groups\" SET guid = ?, type = ? WHERE id = ( SELECT id FROM \"groups\" "
      ++ "WHERE guid IS NULL ORDER BY id LIMIT 1 FOR UPDATE SKIP LOCKED )"
  | mysql => "UPDATE \"groups\" SET guid = ?, type = ? WHERE guid IS NULL ORDER BY id LIMIT 1"
  | sqlite => "UPDATE \"groups\" SET guid = ?, type = ? WHERE id = ( SELECT id FROM \"groups\" "
      ++ "WHERE guid IS NULL ORDER BY id LIMIT 1 )"

end Dialect

end NetworkPolicy.Sql
