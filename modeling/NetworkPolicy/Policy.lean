import NetworkPolicy.Json.Record

namespace NetworkPolicy

structure Ports where
  first : UInt16 := 0
  last : UInt16 := 0
  deriving DecidableEq, Inhabited

structure AddressRange where
  first : String := ""
  last : String := ""
  deriving DecidableEq, Inhabited

structure Source where
  id : String := ""
  tag : String := ""
  type : String := ""
  deriving DecidableEq, Inhabited

/-- Of `ranges` only the first is ever stored. -/
structure Destination where
  id : String := ""
  tag : String := ""
  protocol : String := ""
  port : UInt16 := 0
  ports : Ports := {}
  type : String := ""
  ranges : List AddressRange := []
  deriving DecidableEq, Inhabited

structure Policy where
  source : Source := {}
  destination : Destination := {}
  deriving DecidableEq, Inhabited

structure Tag where
  id : String := ""
  tag : String := ""
  type : String := ""
  deriving DecidableEq, Inhabited

def defaultType : String := "app"

def typeOrDefault (type : String) : String :=
  if type.isEmpty then defaultType else type

namespace Destination

/-- A single port without a range stands for the range of that port. -/
def portRange (d : Destination) : Ports :=
  if d.ports.first = 0 ∧ d.ports.last = 0 ∧ d.port ≠ 0 then ⟨d.port, d.port⟩ else d.ports

/-- The single port kept beside the range: the one given, or that of a range of one port. -/
def legacyPort (d : Destination) : UInt16 :=
  if d.port ≠ 0 then d.port
  else if d.portRange.first = d.portRange.last then d.portRange.first
  else 0

end Destination

/-- What tells policies apart. -/
structure Policy.Key where
  source : String
  destination : String
  ports : Ports
  protocol : String
  deriving DecidableEq, Inhabited

def Policy.key (p : Policy) : Policy.Key :=
  ⟨p.source.id, p.destination.id, p.destination.portRange, p.destination.protocol⟩

open Json (Record Field Codec)

def Ports.record : Record Ports where
  name := "Ports"
  blank := {}
  fields := [
    .required "start" .uint16 first fun a p => { p with first := a },
    .required "end" .uint16 last fun a p => { p with last := a }]

def AddressRange.record : Record AddressRange where
  name := "IpRange"
  blank := {}
  fields := [
    .required "start" .text first fun a r => { r with first := a },
    .required "end" .text last fun a r => { r with last := a }]

def Source.record : Record Source where
  name := "Source"
  blank := {}
  fields := [
    .required "id" .text id fun a s => { s with id := a },
    .required "tag" .text tag fun a s => { s with tag := a },
    .required "group_type" .text type fun a s => { s with type := a }]

def Destination.record : Record Destination where
  name := "Destination"
  blank := {}
  fields := [
    .required "id" .text id fun a d => { d with id := a },
    .required "tag" .text tag fun a d => { d with tag := a },
    .required "protocol" .text protocol fun a d => { d with protocol := a },
    .required "port" .uint16 port fun a d => { d with port := a },
    .required "ports" Ports.record.codec ports fun a d => { d with ports := a },
    .required "group_type" .text type fun a d => { d with type := a },
    .required "ips" (.list AddressRange.record.codec) ranges fun a d => { d with ranges := a }]

def Policy.record : Record Policy where
  name := "Policy"
  blank := {}
  fields := [
    .required "source" Source.record.codec source fun a p => { p with source := a },
    .required "destination" Destination.record.codec destination fun a p =>
      { p with destination := a }]

def Tag.record : Record Tag where
  name := "Tag"
  blank := {}
  fields := [
    .required "id" .text id fun a t => { t with id := a },
    .required "tag" .text tag fun a t => { t with tag := a },
    .required "group_type" .text type fun a t => { t with type := a }]

end NetworkPolicy
