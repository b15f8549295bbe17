import NetworkPolicy.Work

namespace NetworkPolicy.Work

def slotOf (guid : String) : Work (Option Slot) :=
  query (fun s => do s.demand [.groups]; s.demandGuids "guid") (·.slotOf guid)

def countFree : Work Nat :=
  query (fun s => do s.demand [.groups]; s.demandGuids "guid") (·.countFree)

/-- Slots that are free, though none could be had, are held by others. -/
def emptyClaim (free : Nat) : Failure :=
  if 0 < free then .slotsHeld else .poolExhausted

/-- The slot of the guid, or else the one that `give` hands out. -/
def claimBy (give : Tables → Except Sql.Fault (Bool × Tables)) (guid : String) : Work Int := do
  match ← slotOf guid with
  | some s => return s.id
  | none =>
    if ← statement (fun _ => .ok ()) give then
      match ← slotOf guid with
      | some s => return s.id
      | none => throw .poolExhausted
    else throw (emptyClaim (← countFree))

def claim (guid type : String) : Work Int :=
  call .claim (claimBy (fun t => .ok (t.giveSlot guid type)) guid)

def lookup (guid : String) : Work Int :=
  call .lookup do
    match ← slotOf guid with
    | some s => return s.id
    | none => throw .notFound

def release (id : Int) : Work Unit :=
  call .release (update (fun s => do s.demand [.groups]; s.demandGuids "guid")
    fun t => .ok (t.releaseSlot id))

def addRange (r : RangeRow) : Work Unit :=
  call .addRange (update (fun s => do s.demand [.ranges]; s.demandInFull [.groups]) (·.addRange r))

def dropRange (group : Int) : Work Unit :=
  call .dropRange (update (fun s => do s.demand [.ranges]; s.demandInFull [.groups])
    fun t => .ok (t.dropRange group))

/-- Numbers of destinations are read as they are: they are taken to stay below 2³¹. -/
def destinationId (key : DestinationKey) : Work Int := do
  match ← query (·.demand [.destinations]) (·.findDestination key) with
  | some d => return d.id
  | none => throw .notFound

def findDestination (key : DestinationKey) : Work Int :=
  call .findDestination (destinationId key)

/-- The destination with the key, made if it is not there. Of the ranges the first is recorded for
the group, unless the group has one, by a call of its own. -/
def findOrCreate (key : DestinationKey) (port : UInt16) (ranges : List AddressRange) : Work Int :=
  call .findOrCreate do
    update (fun s => do s.demand [.destinations]; s.demandInFull [.groups])
      (·.addDestination key port.toNat)
    match ranges with
    | [] => pure ()
    | r :: _ => addRange ⟨key.group, r.first, r.last⟩
    destinationId key

def removeDestination (id : Int) : Work Unit :=
  call .removeDestination (update (fun s => do s.demand [.destinations]; s.demandInFull [.groups])
    (·.removeDestination id))

def countReferencing (group : Int) : Work Nat :=
  call .countReferencing (query (·.demand [.destinations]) (·.countReferencing group))

def addPolicy (p : PolicyRow) : Work Unit :=
  call .addPolicy (update
    (fun s => do s.demand [.policies]; s.demandInFull [.destinations, .groups]) (·.addPolicy p))

def removePolicy (p : PolicyRow) : Work Unit :=
  call .removePolicy do
    if ← statement (fun s => do s.demand [.policies]; s.demandInFull [.destinations, .groups])
        fun t => .ok (t.removePolicy p) then
      return ()
    else throw .notFound

def countByDestination (destination : Int) : Work Nat :=
  call .countByDestination (query (·.demand [.policies]) (·.countByDestination destination))

def countByGroup (group : Int) : Work Nat :=
  call .countByGroup (query (·.demand [.policies, .destinations]) (·.countByGroup group))

end NetworkPolicy.Work
