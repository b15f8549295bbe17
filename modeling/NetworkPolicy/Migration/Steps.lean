import NetworkPolicy.Migration

namespace NetworkPolicy.Migration

/-- A table with numbered rows, as its creation is written. -/
structure TableText where
  name : String
  /-- Columns that hold the number of a row of another table. -/
  references : List (String × String) := []
  columns : Sql.Dialect → List String
  unique : Sql.Dialect → List String

namespace TableText

def integer : Sql.Dialect → String
  | .postgres | .mysql => "INT"
  | .sqlite => "INTEGER"

def identity : Sql.Dialect → String
  | .postgres => "id SERIAL PRIMARY KEY"
  | .mysql => "id INT NOT NULL AUTO_INCREMENT"
  | .sqlite => "id INTEGER PRIMARY KEY AUTOINCREMENT"

/-- Only one dialect writes all keys behind the columns. -/
def render (t : TableText) (d : Sql.Dialect) : String :=
  let keysBehind := d = .mysql
  let reference (r : String × String) :=
    r.1 ++ " " ++ integer d ++ if keysBehind then "" else " REFERENCES " ++ r.2 ++ "(id)"
  let unique := t.unique d
  let parts :=
    identity d :: t.references.map reference ++ t.columns d
    ++ (if keysBehind then ["PRIMARY KEY (id)"] else [])
    ++ (if unique.isEmpty then [] else ["UNIQUE (" ++ ", ".intercalate unique ++ ")"])
    ++ if keysBehind then
        t.references.map fun r => "FOREIGN KEY (" ++ r.1 ++ ") REFERENCES " ++ r.2 ++ "(id)"
      else []
  d.prepare ("CREATE TABLE IF NOT EXISTS " ++ t.name ++ " ( " ++ ", ".intercalate parts ++ " )")

end TableText

def groupsText : TableText where
  name := "\"groups\""
  columns d := [
    if d = .mysql then "guid VARCHAR(255)" else "guid VARCHAR(255) UNIQUE",
    "type VARCHAR(255) DEFAULT '" ++ defaultType ++ "'"]
  unique d := if d = .mysql then ["guid"] else []

def destinationsText : TableText where
  name := "destinations"
  references := [("group_id", "\"groups\"")]
  columns d := [
    "port " ++ TableText.integer d ++ " NOT NULL DEFAULT 0",
    "start_port " ++ TableText.integer d ++ " NOT NULL",
    "end_port " ++ TableText.integer d ++ " NOT NULL",
    "protocol VARCHAR(255) NOT NULL"]
  unique _ := ["group_id", "start_port", "end_port", "protocol"]

def policiesText : TableText where
  name := "policies"
  references := [("group_id", "\"groups\""), ("destination_id", "destinations")]
  columns _ := []
  unique _ := ["group_id", "destination_id"]

def rangesText : TableText where
  name := "ip_ranges"
  references := [("group_id", "\"groups\"")]
  columns d :=
    let address := if d = .mysql then " VARCHAR(255) DEFAULT ''" else " TEXT DEFAULT ''"
    ["start_ip" ++ address, "end_ip" ++ address]
  unique _ := ["group_id"]

def createTable (t : TableText) (add : Schema → Schema) (d : Sql.Dialect) : List Statement :=
  [.onSchema (t.render d) fun s => .ok (add s)]

def indexPolicies (d : Sql.Dialect) : List Statement :=
  [.onSchema
    ("CREATE INDEX " ++ (if d = .mysql then "" else "IF NOT EXISTS ")
      ++ "idx_policies_destination ON policies (destination_id)")
    fun s => do
      s.demandInFull [.policies]
      return s]

/-- The steps of the store, oldest first. A table that is there already is left alone. -/
def steps : List Migration := [
  { id := "0001_create_groups"
    statements := createTable groupsText fun s =>
      { s with groups := if s.groups = .absent then .full else s.groups } },
  { id := "0002_create_destinations"
    statements := createTable destinationsText ({ · with destinations := true }) },
  { id := "0003_create_policies"
    statements := createTable policiesText ({ · with policies := true }) },
  { id := "0004_create_ip_ranges"
    statements := createTable rangesText ({ · with ranges := true }) },
  { id := "0005_index_policy_destinations"
    statements := indexPolicies }]

end NetworkPolicy.Migration
