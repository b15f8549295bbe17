import NetworkPolicy.Policy

namespace NetworkPolicy.Payload

open Json (Record Field Codec)

structure Ports where
  first : Int64 := 0
  last : Int64 := 0
  deriving DecidableEq, Inhabited

structure AddressRange where
  first : String := ""
  last : String := ""
  deriving DecidableEq, Inhabited

structure Source where
  id : String := ""
  tag : String := ""
  type : String := ""
  deriving DecidableEq, Inhabited

structure Destination where
  id : String := ""
  tag : String := ""
  type : String := ""
  protocol : String := ""
  ports : Ports := {}
  ranges : List AddressRange := []
  deriving DecidableEq, Inhabited

structure Policy where
  source : Source := {}
  destination : Destination := {}
  deriving DecidableEq, Inhabited

structure Policies where
  total : UInt64 := 0
  policies : List Policy := []
  deriving DecidableEq, Inhabited

structure Tag where
  id : String := ""
  tag : String := ""
  type : String := ""
  deriving DecidableEq, Inhabited

structure Tags where
  tags : List Tag := []
  deriving DecidableEq, Inhabited

structure EgressSource where
  id : String := ""
  type : String := ""
  deriving DecidableEq, Inhabited

structure EgressDestination where
  protocol : String := ""
  ranges : List AddressRange := []
  deriving DecidableEq, Inhabited

structure EgressPolicy where
  source : EgressSource := {}
  destination : EgressDestination := {}
  deriving DecidableEq, Inhabited

def Ports.record : Record Ports where
  name := "Ports"
  blank := {}
  fields := [
    .defaulted "start" .int64 first fun a p => { p with first := a },
    .defaulted "end" .int64 last fun a p => { p with last := a }]

def AddressRange.record : Record AddressRange where
  name := "IpRange"
  blank := {}
  fields := [
    .defaulted "start" .text first fun a r => { r with first := a },
    .defaulted "end" .text last fun a r => { r with last := a }]

def Source.record : Record Source where
  name := "Source"
  blank := {}
  fields := [
    .defaulted "id" .text id fun a s => { s with id := a },
    .sparse "tag" .text String.isEmpty tag fun a s => { s with tag := a },
    .sparse "type" .text String.isEmpty type fun a s => { s with type := a }]

def Destination.record : Record Destination where
  name := "Destination"
  blank := {}
  fields := [
    .defaulted "id" .text id fun a d => { d with id := a },
    .sparse "tag" .text String.isEmpty tag fun a d => { d with tag := a },
    .sparse "type" .text String.isEmpty type fun a d => { d with type := a },
    .defaulted "protocol" .text protocol fun a d => { d with protocol := a },
    .defaulted "ports" Ports.record.codec ports fun a d => { d with ports := a },
    .sparse "ips" (.list AddressRange.record.codec) List.isEmpty ranges fun a d =>
      { d with ranges := a }]

def Policy.record : Record Policy where
  name := "Policy"
  blank := {}
  fields := [
    .defaulted "source" Source.record.codec source fun a p => { p with source := a },
    .defaulted "destination" Destination.record.codec destination fun a p =>
      { p with destination := a }]

def Policies.record : Record Policies where
  name := "Policies"
  blank := {}
  fields := [
    .defaulted "total_policies" (.uint64 "usize") total fun a p => { p with total := a },
    .defaulted "policies" (.list Policy.record.codec) policies fun a p => { p with policies := a }]

def Tag.record : Record Tag where
  name := "Tag"
  blank := {}
  fields := [
    .required "id" .text id fun a t => { t with id := a },
    .required "tag" .text tag fun a t => { t with tag := a },
    .required "type" .text type fun a t => { t with type := a }]

def Tags.record : Record Tags where
  name := "Tags"
  blank := {}
  fields := [
    .required "tags" (.list Tag.record.codec) tags fun a t => { t with tags := a }]

def EgressSource.record : Record EgressSource where
  name := "EgressSource"
  blank := {}
  fields := [
    .required "id" .text id fun a s => { s with id := a },
    .sparse "type" .text String.isEmpty type fun a s => { s with type := a }]

def EgressDestination.record : Record EgressDestination where
  name := "EgressDestination"
  blank := {}
  fields := [
    .required "protocol" .text protocol fun a d => { d with protocol := a },
    .defaulted "ips" (.list AddressRange.record.codec) ranges fun a d => { d with ranges := a }]

def EgressPolicy.record : Record EgressPolicy where
  name := "EgressPolicy"
  blank := {}
  fields := [
    .required "source" EgressSource.record.codec source fun a p => { p with source := a },
    .required "destination" EgressDestination.record.codec destination fun a p =>
      { p with destination := a }]

end NetworkPolicy.Payload
