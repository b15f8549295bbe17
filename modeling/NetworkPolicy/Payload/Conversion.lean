import NetworkPolicy.Failure
import NetworkPolicy.Payload.Validity

namespace NetworkPolicy.Payload

/-- Why a payload could not be turned into policies or back. -/
inductive Rejection where
  | unreadable (error : Json.Error)
  | invalid (fault : Fault)
  | unwritable (error : Json.Error)

namespace Rejection

def message : Rejection → String
  | unreadable error => "unmarshal json: " ++ error.message
  | invalid fault => "validate policies: " ++ fault.message
  | unwritable error => "marshal json: " ++ error.message

def chain : Rejection → List String
  | unreadable error | unwritable error => [error.message]
  | invalid fault => [fault.message]

def blame : Rejection → Blame
  | unreadable _ | invalid _ => .client
  | unwritable _ => .server

end Rejection

/-- A port that does not fit becomes zero. Checked ports fit. -/
def storedPort (n : Int64) : UInt16 :=
  if 0 ≤ n ∧ n ≤ highestPort then n.toUInt64.toUInt16 else 0

def AddressRange.toStored (r : AddressRange) : NetworkPolicy.AddressRange :=
  ⟨r.first, r.last⟩

/-- A range of one port is also the single port. -/
def Policy.toStored (p : Policy) : NetworkPolicy.Policy where
  source := ⟨p.source.id, p.source.tag, p.source.type⟩
  destination :=
    let first := storedPort p.destination.ports.first
    let last := storedPort p.destination.ports.last
    { id := p.destination.id
      tag := p.destination.tag
      protocol := p.destination.protocol
      port := if first = last then first else 0
      ports := ⟨first, last⟩
      type := p.destination.type
      ranges := (p.destination.ranges.take 1).map AddressRange.toStored }

def Policy.ofStored (p : NetworkPolicy.Policy) : Policy where
  source := { id := p.source.id, tag := p.source.tag }
  destination := {
    id := p.destination.id
    tag := p.destination.tag
    protocol := p.destination.protocol
    ports := ⟨p.destination.ports.first.toNat.toInt64, p.destination.ports.last.toNat.toInt64⟩ }

def Policies.ofStored (policies : List NetworkPolicy.Policy) : Policies where
  total := policies.length.toUInt64
  policies := policies.map Policy.ofStored

def Tag.ofStored (t : NetworkPolicy.Tag) : Tag :=
  ⟨t.id, t.tag, t.type⟩

def Tags.ofStored (tags : List NetworkPolicy.Tag) : Tags :=
  ⟨tags.map Tag.ofStored⟩

def accept (check : List Policy → Except Fault Unit) (body : ByteArray) :
    Except Rejection (List NetworkPolicy.Policy) := do
  let request ← (Policies.record.codec.parseBytes body).mapError .unreadable
  (check request.policies).mapError .invalid
  return request.policies.map Policy.toStored

def listing (policies : List NetworkPolicy.Policy) : String :=
  Policies.record.codec.print (.ofStored policies)

def tagListing (tags : List NetworkPolicy.Tag) : String :=
  Tags.record.codec.print (.ofStored tags)

end NetworkPolicy.Payload
