import NetworkPolicy.Proofs.Atomicity
import NetworkPolicy.Proofs.Reduction
import NetworkPolicy.Proofs.Requests

namespace NetworkPolicy

/-- What is written of a policy. -/
structure Written where
  source : String
  sourceType : String
  destination : String
  destinationType : String
  ports : Ports
  port : UInt16
  protocol : String
  range : Option AddressRange
  deriving DecidableEq

def Policy.written (p : Policy) : Written where
  source := p.source.id
  sourceType := typeOrDefault p.source.type
  destination := p.destination.id
  destinationType := typeOrDefault p.destination.type
  ports := p.destination.portRange
  port := p.destination.legacyPort
  protocol := p.destination.protocol
  range := p.destination.ranges.head?

namespace Store

open Work

variable {p q : Policy} {s : Session}

theorem findOrCreate_head? (key : DestinationKey) (port : UInt16) (ranges : List AddressRange) :
    findOrCreate key port ranges = findOrCreate key port ranges.head?.toList := by
  cases ranges <;> rfl

theorem findOrCreate_congr (h : p.written = q.written) (group : Int) :
    findOrCreate (destinationKey group p.destination) p.destination.legacyPort
        p.destination.ranges =
      findOrCreate (destinationKey group q.destination) q.destination.legacyPort
        q.destination.ranges := by
  have hports : p.destination.portRange = q.destination.portRange := congrArg Written.ports h
  have hport : p.destination.legacyPort = q.destination.legacyPort := congrArg Written.port h
  have hprotocol : p.destination.protocol = q.destination.protocol := congrArg Written.protocol h
  have hrange : p.destination.ranges.head? = q.destination.ranges.head? := congrArg Written.range h
  have hkey : destinationKey group p.destination = destinationKey group q.destination := by
    rw [destinationKey, destinationKey, hports, hprotocol]
  rw [findOrCreate_head?, hkey, hport, hrange, ← findOrCreate_head?]

theorem createPolicy_congr (h : p.written = q.written) : createPolicy p = createPolicy q := by
  have hsource : p.source.id = q.source.id := congrArg Written.source h
  have hsourceType : typeOrDefault p.source.type = typeOrDefault q.source.type :=
    congrArg Written.sourceType h
  have hdestination : p.destination.id = q.destination.id := congrArg Written.destination h
  have htype : typeOrDefault p.destination.type = typeOrDefault q.destination.type :=
    congrArg Written.destinationType h
  simp only [createPolicy, hsource, hsourceType, hdestination, htype, findOrCreate_congr h]

/-- By induction on both batches: policy by policy the same is done. -/
theorem createAll_congr {a b : List Policy} (h : a.map Policy.written = b.map Policy.written) :
    (a.forM createPolicy).on s = (b.forM createPolicy).on s := by
  induction a generalizing b s with
  | nil =>
    rw [List.map_nil, eq_comm, List.map_eq_nil_iff] at h
    rw [h]
  | cons p rest ih =>
    obtain ⟨q, more, rfl, hpq, hrest⟩ := List.map_eq_cons_iff.1 h.symm
    rw [forM_cons_on, forM_cons_on, createPolicy_congr hpq]
    rcases (createPolicy p).on s with ⟨f | _, s'⟩
    · rfl
    · exact ih hrest.symm

end Store

/-- Two batches that agree, policy by policy, on what is written of them are created with the same
answer and leave the same behind. -/
theorem creation_reads_what_is_written (s : Session) (a b : List Policy)
    (h : a.map Policy.written = b.map Policy.written) :
    (Store.create a).on s = (Store.create b).on s := by
  rw [Store.create, Store.create, Work.transact_on, Work.transact_on, Store.createAll_congr h]

def sparse : List Policy := [
  Store.link "a" "b" "tcp" 80,
  { source := { id := "b" }
    destination := {
      id := "c", protocol := "udp", port := 53, ranges := [⟨"10.0.0.1", "10.0.0.9"⟩] } }]

def embellished : List Policy := [
  { source := { id := "a", tag := "FF", type := "app" }
    destination := { id := "b", tag := "01", protocol := "tcp", port := 80, ports := ⟨80, 80⟩ } },
  { source := { id := "b", tag := "03" }
    destination := {
      id := "c", tag := "01", protocol := "udp", ports := ⟨53, 53⟩, type := "app"
      ranges := [⟨"10.0.0.1", "10.0.0.9"⟩, ⟨"0.0.0.0", "255.255.255.255"⟩] } }]

/-- Tags that are sent along are not the tags that are given. -/
theorem creation_reads_what_is_written_embellished :
    sparse.map Policy.written = embellished.map Policy.written ∧
      ∃ s', (Store.create sparse).on (served { bytes := 1 } []) = (.ok (), s') ∧
        (Store.create embellished).on (served { bytes := 1 } []) = (.ok (), s') ∧
        s'.database.tables.held =
          [⟨1, some "a", some "app"⟩, ⟨2, some "b", some "app"⟩, ⟨3, some "c", some "app"⟩] ∧
        s'.database.tables.ranges = [⟨3, "10.0.0.1", "10.0.0.9"⟩] := by
  have hs := serves_served { bytes := 1 } []
  have hwritten : sparse.map Policy.written = embellished.map Policy.written := by decide
  have hroom : ((served { bytes := 1 } []).database.tables.enterAll sparse).isSome := by
    rw [tables_served]
    decide +kernel
  have hcreated := hs.create_after hroom
  refine ⟨hwritten, _, hcreated, ?_, ?_⟩
  · rw [← creation_reads_what_is_written _ sparse embellished hwritten]
    exact hcreated
  · rw [hs.tables_after, tables_served]
    decide +kernel

end NetworkPolicy
