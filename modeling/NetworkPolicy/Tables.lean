import NetworkPolicy.Policy
import NetworkPolicy.Sql.Fault

namespace NetworkPolicy

/-- A place of the pool. Its number is the tag of the guid in it. -/
structure Slot where
  id : Int
  guid : Option String := none
  type : Option String := some defaultType
  deriving DecidableEq, Inhabited

/-- What tells destinations apart. -/
structure DestinationKey where
  group : Int
  first : Int
  last : Int
  protocol : String
  deriving DecidableEq, Inhabited

structure DestinationRow extends DestinationKey where
  id : Int
  port : Int
  deriving DecidableEq, Inhabited

structure PolicyRow where
  source : Int
  destination : Int
  deriving DecidableEq, Inhabited

structure RangeRow where
  group : Int
  first : String
  last : String
  deriving DecidableEq, Inhabited

inductive Table where
  | groups
  | destinations
  | policies
  | ranges
  deriving DecidableEq, Inhabited

def Table.name : Table → String
  | groups => "groups"
  | destinations => "destinations"
  | policies => "policies"
  | ranges => "ip_ranges"

inductive Extent where
  | absent
  | idOnly
  | full
  deriving DecidableEq, Inhabited

/-- What becomes of an update that gives a slot a guid: it is done, it finds no row, or it is taken
back at once. -/
inductive ClaimRule where
  | honoured
  | ignored
  | undone
  deriving DecidableEq, Inhabited

structure Schema where
  groups : Extent := .absent
  destinations : Bool := false
  policies : Bool := false
  ranges : Bool := false
  claims : ClaimRule := .honoured
  deriving DecidableEq, Inhabited

/-- Slots ascend, and the other rows stand in the order in which they came. A row may only refer to
rows that are there, and a row that repeats another one is left out. -/
structure Tables where
  schema : Schema := {}
  slots : List Slot := []
  destinations : List DestinationRow := []
  /-- The highest id that an insertion took. -/
  lastDestination : Int := 0
  policies : List PolicyRow := []
  ranges : List RangeRow := []
  deriving DecidableEq, Inhabited

namespace Schema

def has (s : Schema) : Table → Bool
  | .groups => s.groups ≠ .absent
  | .destinations => s.destinations
  | .policies => s.policies
  | .ranges => s.ranges

/-- The tables are there; the first one that is not is named. -/
def demand (s : Schema) (tables : List Table) : Except Sql.Fault Unit :=
  match tables.find? (!s.has ·) with
  | none => .ok ()
  | some t => .error (.missingTable t.name)

/-- As `demand`, for tables that a statement reaches through others; they are named in full. -/
def demandInFull (s : Schema) (tables : List Table) : Except Sql.Fault Unit :=
  match tables.find? (!s.has ·) with
  | none => .ok ()
  | some t => .error (.missingTable ("main." ++ t.name))

def demandGuids (s : Schema) (column : String) : Except Sql.Fault Unit :=
  if s.groups = .idOnly then .error (.unknownColumn column) else .ok ()

end Schema

end NetworkPolicy
