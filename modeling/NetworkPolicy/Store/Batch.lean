import NetworkPolicy.Work.Operations

namespace NetworkPolicy.Store

open Work

def destinationKey (group : Int) (d : Destination) : DestinationKey :=
  ⟨group, d.portRange.first.toNat, d.portRange.last.toNat, d.protocol⟩

def createPolicy (p : Policy) : Work Unit := do
  let source ← staged "creating group" (claim p.source.id (typeOrDefault p.source.type))
  let group ← staged "creating group" (claim p.destination.id (typeOrDefault p.destination.type))
  let destination ← staged "creating destination"
    (findOrCreate (destinationKey group p.destination) p.destination.legacyPort
      p.destination.ranges)
  staged "creating policy" (addPolicy ⟨source, destination⟩)

def create (batch : List Policy) : Work Unit :=
  transact (batch.forM createPolicy)

/-- Nothing when a row is not found; other failures are named with the stage. -/
def soughtAt {α : Type} (name : String) (w : Work α) : Work (Option α) :=
  tryCatch (some <$> w) fun f =>
    if f.isNotFound then return none else throw (.stage name f)

/-- A group that no policy and no destination needs is given up. -/
def releaseUnused (group : Int) : Work Unit := do
  let policies ← countByGroup group
  let destinations ← countReferencing group
  if policies = 0 ∧ destinations = 0 then
    dropRange group
    release group

def deletePolicy (p : Policy) : Work Unit := do
  let some source ← soughtAt "getting source id" (lookup p.source.id) | return
  let some group ← soughtAt "getting destination group id" (lookup p.destination.id) | return
  let some destination ← soughtAt "getting destination id"
    (findDestination (destinationKey group p.destination)) | return
  let some _ ← soughtAt "deleting policy" (removePolicy ⟨source, destination⟩) | return
  let left ← staged "counting destination id" (countByDestination destination)
  if left = 0 then
    staged "deleting destination" (removeDestination destination)
  staged "deleting group row" (releaseUnused source)
  staged "deleting group row" (releaseUnused group)

def delete (batch : List Policy) : Work Unit :=
  transact (batch.forM deletePolicy)

end NetworkPolicy.Store
