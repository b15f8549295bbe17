import NetworkPolicy.Proofs.Payloads
import NetworkPolicy.Store.Batch

namespace NetworkPolicy.Payload

open NetworkPolicy (Destination)

section Accepted

/-- The stored policy is the one that was sent. Its ports are the same numbers, its single port is
that of a range of one port, and of the ranges of addresses it has the first. Its destination is
kept under the ports that were sent. -/
structure Policy.StoredAs (p : Policy) (q : NetworkPolicy.Policy) : Prop where
  source : q.source.id = p.source.id ∧ q.source.tag = p.source.tag ∧ q.source.type = p.source.type
  destination : q.destination.id = p.destination.id ∧ q.destination.tag = p.destination.tag ∧
    q.destination.type = p.destination.type
  protocol : q.destination.protocol = p.destination.protocol
  first : (q.destination.ports.first.toNat : Int) = p.destination.ports.first.toInt
  last : (q.destination.ports.last.toNat : Int) = p.destination.ports.last.toInt
  port : (q.destination.port.toNat : Int) =
    if p.destination.ports.first = p.destination.ports.last then p.destination.ports.first.toInt
    else 0
  ranges : q.destination.ranges = (p.destination.ranges.head?.map AddressRange.toStored).toList
  target : ∀ group, Store.destinationKey group q.destination =
    ⟨group, p.destination.ports.first.toInt, p.destination.ports.last.toInt, p.destination.protocol⟩

variable {p p' : Policy}

theorem stored_ports (h : p.check = .ok ()) :
    ((storedPort p.destination.ports.first).toNat : Int) = p.destination.ports.first.toInt ∧
      ((storedPort p.destination.ports.last).toNat : Int) = p.destination.ports.last.toInt := by
  obtain ⟨-, -, -, ⟨hfirst, hlast, hhigh⟩, -⟩ := check_eq_ok.1 h
  exact toNat_storedPorts hfirst hlast hhigh

theorem portRange_of_check (h : p.check = .ok ()) : p.toStored.destination.portRange =
    ⟨storedPort p.destination.ports.first, storedPort p.destination.ports.last⟩ := by
  obtain ⟨-, -, -, ⟨hfirst, hlast, hhigh⟩, -⟩ := check_eq_ok.1 h
  exact portRange_toStored (valid_ports hfirst hlast hhigh).1

theorem storedPort_eq_iff {m n : Int64} (hm : ((storedPort m).toNat : Int) = m.toInt)
    (hn : ((storedPort n).toNat : Int) = n.toInt) : storedPort m = storedPort n ↔ m = n := by
  refine ⟨fun h => ?_, congrArg storedPort⟩
  rw [← Int64.toInt_inj, ← hm, ← hn, h]

theorem storedAs_toStored (h : p.check = .ok ()) : p.StoredAs p.toStored := by
  obtain ⟨hfirst, hlast⟩ := stored_ports h
  refine ⟨⟨rfl, rfl, rfl⟩, ⟨rfl, rfl, rfl⟩, rfl, hfirst, hlast, ?_, ?_, fun group => ?_⟩
  · show ((if storedPort p.destination.ports.first = storedPort p.destination.ports.last then
      storedPort p.destination.ports.first else 0).toNat : Int) = _
    rw [apply_ite UInt16.toNat, apply_ite Nat.cast, hfirst]
    exact if_congr (storedPort_eq_iff hfirst hlast) rfl rfl
  · show (p.destination.ranges.take 1).map AddressRange.toStored = _
    cases p.destination.ranges <;> rfl
  · rw [Store.destinationKey, portRange_of_check h, hfirst, hlast]
    rfl

theorem key_toStored_eq_iff (h : p.check = .ok ()) (h' : p'.check = .ok ()) :
    p.toStored.key = p'.toStored.key ↔
      p.source.id = p'.source.id ∧ p.destination.id = p'.destination.id ∧
        p.destination.protocol = p'.destination.protocol ∧
        p.destination.ports.first = p'.destination.ports.first ∧
        p.destination.ports.last = p'.destination.ports.last := by
  obtain ⟨hfirst, hlast⟩ := stored_ports h
  obtain ⟨hfirst', hlast'⟩ := stored_ports h'
  rw [Policy.key, Policy.key, portRange_of_check h, portRange_of_check h']
  simp only [Policy.Key.mk.injEq, NetworkPolicy.Ports.mk.injEq, storedPort_eq_iff hfirst hfirst',
    storedPort_eq_iff hlast hlast']
  exact and_congr_right' (and_congr_right' and_comm)

theorem of_mem_zip_toStored {sent : List Policy} {x : Policy × NetworkPolicy.Policy}
    (hx : x ∈ sent.zip (sent.map Policy.toStored)) : x.1 ∈ sent ∧ x.2 = x.1.toStored := by
  have hpairs : sent.zip (sent.map Policy.toStored) = sent.map fun p => (p, p.toStored) := by
    rw [← List.zip_map', List.map_id']
  rw [hpairs] at hx
  obtain ⟨p, hp, rfl⟩ := List.mem_map.1 hx
  exact ⟨hp, rfl⟩

/-- Of two accepted bodies, each policy is stored as it was sent, and two policies get one key
exactly when they agree in both ends, the protocol and the ports. -/
theorem accepted_policies_stored_as_sent {body body' : ByteArray}
    {batch batch' : List NetworkPolicy.Policy} (h : accept check body = .ok batch)
    (h' : accept check body' = .ok batch') :
    ∃ sent sent', Policies.record.codec.parseBytes body = .ok sent ∧
      Policies.record.codec.parseBytes body' = .ok sent' ∧
      List.Forall₂ Policy.StoredAs sent.policies batch ∧
      ∀ x ∈ sent.policies.zip batch, ∀ y ∈ sent'.policies.zip batch',
        (x.2.key = y.2.key ↔
          x.1.source.id = y.1.source.id ∧ x.1.destination.id = y.1.destination.id ∧
            x.1.destination.protocol = y.1.destination.protocol ∧
            x.1.destination.ports.first = y.1.destination.ports.first ∧
            x.1.destination.ports.last = y.1.destination.ports.last) := by
  obtain ⟨sent, hread, hchecked, hbatch⟩ := accept_eq_ok.1 h
  obtain ⟨sent', hread', hchecked', hbatch'⟩ := accept_eq_ok.1 h'
  subst hbatch hbatch'
  have hstored := checked_of_check hchecked
  have hstored' := checked_of_check hchecked'
  refine ⟨sent, sent', hread, hread', ?_, fun x hx y hy => ?_⟩
  · rw [List.forall₂_map_right_iff, List.forall₂_same]
    exact fun p hp => storedAs_toStored (hstored p hp)
  · obtain ⟨hp, hx⟩ := of_mem_zip_toStored hx
    obtain ⟨hq, hy⟩ := of_mem_zip_toStored hy
    rw [hx, hy]
    exact key_toStored_eq_iff (hstored _ hp) (hstored' _ hq)

def requestFor (policies : List Policy) : ByteArray :=
  (Policies.record.codec.print { policies }).toUTF8

theorem accept_requestFor (policies : List Policy) (h : check policies = .ok ()) :
    accept check (requestFor policies) = .ok (policies.map Policy.toStored) :=
  accept_eq_ok.2 ⟨_, Policies.faithful.parseBytes_print _, h, rfl⟩

def oneOfPorts : Policy where
  source := { id := "a", type := "app" }
  destination := {
    id := "b", tag := "01", protocol := "udp", ports := ⟨65535, 65535⟩
    ranges := [⟨"10.0.0.1", "10.0.0.9"⟩, ⟨"::1", "::2"⟩] }

def moreOfPorts : Policy where
  source := { id := "a" }
  destination := { id := "b", protocol := "udp", ports := ⟨1, 65535⟩ }

/-- Requests for the two policies. -/
theorem accepted_policies_stored_as_sent_for_ports :
    accept check (requestFor [oneOfPorts]) = .ok [oneOfPorts.toStored] ∧
      accept check (requestFor [moreOfPorts]) = .ok [moreOfPorts.toStored] ∧
      ∃ sent, Policies.record.codec.parseBytes (requestFor [oneOfPorts]) = .ok sent ∧
        List.Forall₂ Policy.StoredAs sent.policies [oneOfPorts.toStored] := by
  have haccepted := accept_requestFor [oneOfPorts] (by decide +kernel)
  have haccepted' := accept_requestFor [moreOfPorts] (by decide +kernel)
  obtain ⟨sent, -, hsent, -, hstored, -⟩ :=
    accepted_policies_stored_as_sent haccepted haccepted'
  exact ⟨haccepted, haccepted', sent, hsent, hstored⟩

end Accepted

section Listed

/-- A policy as it comes back from a listing: without types and ranges, and with the single port of
a range of one port. -/
def outlined (p : NetworkPolicy.Policy) : NetworkPolicy.Policy where
  source := { p.source with type := "" }
  destination := {
    p.destination with
    port := if p.destination.ports.first = p.destination.ports.last then p.destination.ports.first
      else 0
    type := ""
    ranges := [] }

theorem relisted_eq_outlined (p : NetworkPolicy.Policy) : relisted p = outlined p := by
  rw [relisted, Policy.toStored, Policy.ofStored]
  simp only [storedPort_toInt64]
  rfl

/-- A policy that the check of requests lets through. -/
structure Presentable (p : NetworkPolicy.Policy) : Prop where
  source : p.source.id ≠ ""
  destination : p.destination.id ≠ ""
  protocol : p.destination.protocol = "tcp" ∨ p.destination.protocol = "udp"
  first : 1 ≤ p.destination.ports.first
  last : p.destination.ports.first ≤ p.destination.ports.last

theorem Presentable.valid {p : NetworkPolicy.Policy} (h : Presentable p) :
    p.destination.portRange = p.destination.ports ∧ p.key.Valid := by
  have hports : p.destination.portRange = p.destination.ports :=
    if_neg fun hzero => port_ne_zero h.first hzero.1
  refine ⟨hports, h.source, h.destination, h.protocol, ?_, ?_⟩
  · show 1 ≤ p.destination.portRange.first
    rw [hports]
    exact h.first
  · show p.destination.portRange.first ≤ p.destination.portRange.last
    rw [hports]
    exact h.last

theorem parse_listing (policies : List NetworkPolicy.Policy) :
    Policies.record.codec.parseBytes (listing policies).toUTF8 = .ok (.ofStored policies) :=
  Policies.faithful.parseBytes_print _

/-- Whatever was listed comes back in outline where every request is let through, and under the
usual check when the policies are presentable and there are any. The listing tells their number. -/
theorem listing_comes_back (policies : List NetworkPolicy.Policy) :
    accept (fun _ => .ok ()) (listing policies).toUTF8 = .ok (policies.map outlined) ∧
      (policies ≠ [] → (∀ p ∈ policies, Presentable p) →
        accept check (listing policies).toUTF8 = .ok (policies.map outlined)) ∧
      ∃ listed, Policies.record.codec.parseBytes (listing policies).toUTF8 = .ok listed ∧
        (policies.length < UInt64.size → listed.total.toNat = policies.length) := by
  have houtlined : policies.map relisted = policies.map outlined :=
    List.map_congr_left fun p _ => relisted_eq_outlined p
  refine ⟨?_, fun hne h => ?_, _, parse_listing policies, UInt64.toNat_ofNat_of_lt⟩
  · refine accept_eq_ok.2 ⟨_, parse_listing policies, rfl, ?_⟩
    rw [← houtlined, Policies.ofStored, List.map_map]
    rfl
  · rw [accept_listing hne (fun p hp => (h p hp).valid.1) fun p hp => (h p hp).valid.2, houtlined]

def adorned : NetworkPolicy.Policy where
  source := { id := "\"\n", tag := "01", type := "app" }
  destination := {
    id := "ä", tag := "02", protocol := "tcp", port := 7, ports := ⟨80, 90⟩, type := "ip"
    ranges := [⟨"10.0.0.1", "10.0.0.9"⟩] }

theorem listing_comes_back_unadorned :
    ([adorned] ≠ [] ∧ Presentable adorned ∧ [adorned].length < UInt64.size) ∧
      accept check (listing [adorned]).toUTF8 = .ok [outlined adorned] ∧
      ∃ listed, Policies.record.codec.parseBytes (listing [adorned]).toUTF8 = .ok listed ∧
        listed.total.toNat = 1 := by
  have hpresentable : Presentable adorned :=
    ⟨by decide, by decide, .inl rfl, by decide, by decide⟩
  obtain ⟨-, hchecked, listed, hlisted, htotal⟩ := listing_comes_back [adorned]
  exact ⟨⟨by decide, hpresentable, by decide⟩,
    hchecked (by decide) (List.forall_mem_singleton.2 hpresentable), listed, hlisted,
    htotal (by decide)⟩

end Listed

end NetworkPolicy.Payload
