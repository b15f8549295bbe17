import NetworkPolicy.Sql.Condition
import NetworkPolicy.TagLength
import NetworkPolicy.Work

namespace NetworkPolicy

/-- A policy with the rows that it refers to. -/
structure Entry where
  source : Slot
  destination : DestinationRow
  group : Slot
  range : Option RangeRow
  deriving DecidableEq, Inhabited

def Tables.entry? (t : Tables) (p : PolicyRow) : Option Entry := do
  let source ← t.slotAt p.source
  let destination ← t.destinationAt p.destination
  let group ← t.slotAt destination.group
  return ⟨source, destination, group, t.rangeOf group.id⟩

def Tables.entries (t : Tables) : List Entry :=
  t.policies.filterMap t.entry?

/-- Columns are read as signed numbers of 32 bits, and a port has 16 bits without a sign. -/
def readPort (column : PortColumn) (value : Int) : Except Failure UInt16 :=
  let n := value.bmod UInt32.size
  if 0 ≤ n ∧ n < UInt16.size then .ok n.toNat.toUInt16 else .error (.unreadable column.name n)

def Entry.ranges (e : Entry) : List AddressRange :=
  match e.range with
  | some r => if r.first.isEmpty || r.last.isEmpty then [] else [⟨r.first, r.last⟩]
  | none => []

def Entry.read (n : TagLength) (e : Entry) : Except Failure Policy := do
  let port ← readPort .port e.destination.port
  let first ← readPort .first e.destination.first
  let last ← readPort .last e.destination.last
  return {
    source := ⟨e.source.guid.getD "", n.format e.source.id, e.source.type.getD ""⟩
    destination := {
      id := e.group.guid.getD ""
      tag := n.format e.group.id
      protocol := e.destination.protocol
      port
      ports := ⟨first, last⟩
      type := e.group.type.getD ""
      ranges := e.ranges } }

/-- A condition on the ends of policies. A list that is empty is no condition, but two empty lists
select nothing. -/
structure Selection where
  sources : List String := []
  destinations : List String := []
  /-- Both conditions must hold, not only one. -/
  both : Bool := false
  deriving DecidableEq, Inhabited

inductive GuidColumn where
  | source
  | group
  deriving DecidableEq, Inhabited

/-- What the row of an entry has in the column; a slot that was released has no guid. -/
def Entry.guid (e : Entry) : GuidColumn → Option String
  | .source => e.source.guid
  | .group => e.group.guid

namespace Selection

/-- One condition for each list that is not empty, with a place for each of its guids. -/
def conditions (s : Selection) : List (Sql.Condition GuidColumn) :=
  (if s.sources.isEmpty then [] else [.among .source s.sources.length])
    ++ if s.destinations.isEmpty then [] else [.among .group s.destinations.length]

/-- The guids in the order of their places. There is no limit to their number here. -/
def values (s : Selection) : List String :=
  s.sources ++ s.destinations

def selects (s : Selection) (e : Entry) : Bool :=
  (Sql.Condition.join (if s.both then .and else .or) s.conditions).any fun c =>
    c.holds e.guid s.values = some true

end Selection

namespace Store

open Work

def listWhere (n : TagLength) (selects : Entry → Bool) : Work (List Policy) :=
  staged "listing all" do
    connected
    let entries ← query
      (fun s => do
        s.demand [.policies, .groups, .destinations, .ranges]
        s.demandGuids "src_grp.guid")
      Tables.entries
    attempt ((entries.filter selects).mapM (Entry.read n))

def all (n : TagLength) : Work (List Policy) :=
  listWhere n fun _ => true

/-- The selected policies. Two empty lists are not asked about. -/
def byGuids (n : TagLength) (s : Selection) : Work (List Policy) :=
  if s.sources.isEmpty ∧ s.destinations.isEmpty then return []
  else listWhere n s.selects

def checkDatabase : Work Unit :=
  connected

end Store

end NetworkPolicy
