import NetworkPolicy.Address
import NetworkPolicy.Payload

namespace NetworkPolicy.Payload

inductive Fault where
  | noPolicies
  | noSource
  | noDestination
  | protocol (found : String)
  | ports (first last : Int64)
  | address (found : String)
  | range (first last : String)
  deriving DecidableEq, Inhabited

def highestPort : Int64 := 65535

def Fault.message : Fault → String
  | noPolicies => "missing policies"
  | noSource => "missing source id"
  | noDestination => "missing destination id"
  | protocol found => "invalid destination protocol '" ++ found ++ "', specify either udp or tcp"
  | ports first last =>
    "invalid port range " ++ toString first.toInt ++ "-" ++ toString last.toInt
      ++ ", must be between 1-" ++ toString highestPort.toInt
  | address found => "invalid ip address: " ++ found
  | range first last => "invalid ip range " ++ first ++ "-" ++ last

def readAddress (s : String) : Except Fault Address :=
  match Address.ofText? s with
  | some a => .ok a
  | none => .error (.address s)

def AddressRange.check (r : AddressRange) : Except Fault Unit := do
  let first ← readAddress r.first
  let last ← readAddress r.last
  if first.notAfter last then return () else throw (.range r.first r.last)

def Destination.check (d : Destination) : Except Fault Unit := do
  if d.id.isEmpty then throw .noDestination
  if d.protocol ≠ "tcp" ∧ d.protocol ≠ "udp" then throw (.protocol d.protocol)
  if d.ports.first < 1 ∨ d.ports.last < d.ports.first ∨ highestPort < d.ports.last then
    throw (.ports d.ports.first d.ports.last)
  d.ranges.forM AddressRange.check

def Policy.check (p : Policy) : Except Fault Unit := do
  if p.source.id.isEmpty then throw .noSource
  p.destination.check

def check (policies : List Policy) : Except Fault Unit := do
  if policies.isEmpty then throw .noPolicies
  policies.forM Policy.check

end NetworkPolicy.Payload
