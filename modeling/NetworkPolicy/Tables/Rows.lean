import NetworkPolicy.Tables

namespace NetworkPolicy

inductive PortColumn where
  | port
  | first
  | last
  deriving DecidableEq, Inhabited

def PortColumn.name : PortColumn → String
  | port => "port"
  | first => "start_port"
  | last => "end_port"

def replaceSlot (s : Slot) : List Slot → List Slot
  | [] => []
  | r :: rest => if r.id = s.id then s :: rest else r :: replaceSlot s rest

namespace Tables

def slotOf (t : Tables) (guid : String) : Option Slot :=
  t.slots.find? (·.guid = some guid)

def slotAt (t : Tables) (id : Int) : Option Slot :=
  t.slots.find? (·.id = id)

def freeSlot (t : Tables) : Option Slot :=
  t.slots.find? (·.guid = none)

def countFree (t : Tables) : Nat :=
  t.slots.countP (·.guid = none)

def fillSlot (t : Tables) (id : Int) (guid type : Option String) : Tables :=
  { t with slots := replaceSlot ⟨id, guid, type⟩ t.slots }

/-- Gives the lowest free slot to a guid, and says whether a row was changed. -/
def giveSlot (t : Tables) (guid type : String) : Bool × Tables :=
  match t.freeSlot with
  | none => (false, t)
  | some s =>
    match t.schema.claims with
    | .honoured => (true, t.fillSlot s.id (some guid) (some type))
    | .ignored => (false, t)
    | .undone => (true, t.fillSlot s.id none (some type))

def releaseSlot (t : Tables) (id : Int) : Tables :=
  t.fillSlot id none none

/-- Adds slots with the numbers that follow. -/
def addSlots (t : Tables) (count : Nat) : Tables :=
  let last := t.slots.length
  { t with slots := t.slots ++ (List.range count).map fun i => { id := last + 1 + i } }

def findDestination (t : Tables) (key : DestinationKey) : Option DestinationRow :=
  t.destinations.find? (·.toDestinationKey = key)

def destinationAt (t : Tables) (id : Int) : Option DestinationRow :=
  t.destinations.find? (·.id = id)

/-- An insertion takes the next id, also when the row is there already. -/
def addDestination (t : Tables) (key : DestinationKey) (port : Int) : Except Sql.Fault Tables :=
  let id := t.lastDestination + 1
  if (t.findDestination key).isSome then .ok { t with lastDestination := id }
  else if (t.slotAt key.group).isSome then
    .ok { t with
      destinations := t.destinations ++ [{ toDestinationKey := key, id, port }]
      lastDestination := id }
  else .error .danglingReference

def removeDestination (t : Tables) (id : Int) : Except Sql.Fault Tables :=
  if t.policies.any (·.destination = id) then .error .danglingReference
  else .ok { t with destinations := t.destinations.filter (·.id ≠ id) }

def countReferencing (t : Tables) (group : Int) : Nat :=
  t.destinations.countP (·.group = group)

/-- Writes a port as it is, without a check. -/
def writePort (t : Tables) (column : PortColumn) (id value : Int) : Except Sql.Fault Tables :=
  let write (d : DestinationRow) : DestinationRow :=
    match column with
    | .port => { d with port := value }
    | .first => { d with first := value }
    | .last => { d with last := value }
  match t.destinationAt id with
  | none => .ok t
  | some d =>
    if t.destinations.any fun e => e.id ≠ id && e.toDestinationKey = (write d).toDestinationKey then
      .error (.repeatedColumns ["destinations.group_id", "destinations.start_port",
        "destinations.end_port", "destinations.protocol"])
    else .ok { t with destinations := t.destinations.map fun e => if e.id = id then write e else e }

def addPolicy (t : Tables) (p : PolicyRow) : Except Sql.Fault Tables :=
  if t.policies.contains p then .ok t
  else if (t.slotAt p.source).isSome ∧ (t.destinationAt p.destination).isSome then
    .ok { t with policies := t.policies ++ [p] }
  else .error .danglingReference

def removePolicy (t : Tables) (p : PolicyRow) : Bool × Tables :=
  (t.policies.contains p, { t with policies := t.policies.filter (· ≠ p) })

def countByDestination (t : Tables) (destination : Int) : Nat :=
  t.policies.countP (·.destination = destination)

/-- Policies from the group or to one of its destinations. -/
def countByGroup (t : Tables) (group : Int) : Nat :=
  let owned := t.destinations.filter (·.group = group)
  t.policies.countP fun p => p.source = group || owned.any (·.id = p.destination)

def rangeOf (t : Tables) (group : Int) : Option RangeRow :=
  t.ranges.find? (·.group = group)

def addRange (t : Tables) (r : RangeRow) : Except Sql.Fault Tables :=
  if (t.rangeOf r.group).isSome then .ok t
  else if (t.slotAt r.group).isSome then .ok { t with ranges := t.ranges ++ [r] }
  else .error .danglingReference

def dropRange (t : Tables) (group : Int) : Tables :=
  { t with ranges := t.ranges.filter (·.group ≠ group) }

end Tables

end NetworkPolicy
