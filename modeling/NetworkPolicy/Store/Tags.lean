import NetworkPolicy.TagLength
import NetworkPolicy.Work.Operations

namespace NetworkPolicy.Store

open Work

def slotType (id : Int) : Work String := do
  match ← query (·.demand [.groups]) (·.slotAt id) with
  | some s => return s.type.getD ""
  | none => throw (.sql .rowNotFound)

/-- Claims a tag, or finds the one that the guid has. Its type is the one the slot has. -/
def createTag (n : TagLength) (guid type : String) : Work Tag :=
  transact (staged "creating tag" do
    let id ← claim guid (typeOrDefault type)
    return ⟨guid, n.format id, ← slotType id⟩)

def tagOf? (n : TagLength) (s : Slot) : Option Tag :=
  s.guid.map fun guid => ⟨guid, n.format s.id, s.type.getD ""⟩

def tags (n : TagLength) : Work (List Tag) :=
  staged "listing tags" do
    connected
    query (fun s => do s.demand [.groups]; s.demandGuids "guid") (·.slots.filterMap (tagOf? n))

end NetworkPolicy.Store
