import NetworkPolicy.Proofs.Directory
import NetworkPolicy.Proofs.Handles
import NetworkPolicy.Proofs.Ranges

namespace NetworkPolicy

/-- Single ports are those of the ranges that they are kept beside, and addresses are ordered. -/
structure Directory.Proper (d : Directory) : Prop where
  ports : ∀ x port, d.ports x = some port → port = x.ports.single
  ranges : ∀ guid r, d.ranges guid = some r → r.Ordered

namespace Directory.Proper

variable {d : Directory}

theorem create (h : d.Proper) {batch : List Policy} (hbatch : ∀ p ∈ batch, p.Proper) :
    (d.create batch).Proper := by
  constructor
  · intro x port hport
    rcases Option.or_eq_some_iff.1 hport with hold | ⟨-, hnew⟩
    · exact h.ports x port hold
    · obtain ⟨p, hp, hfirst⟩ := List.exists_of_findSome?_eq_some hnew
      obtain ⟨rfl, hlegacy⟩ := Option.ite_none_right_eq_some.1 hfirst
      exact (Option.some.inj hlegacy).symm.trans (hbatch p hp).port
  · intro guid r hr
    rcases Option.or_eq_some_iff.1 hr with hold | ⟨-, hnew⟩
    · exact h.ranges guid r hold
    · obtain ⟨p, hp, hfirst⟩ := List.exists_of_findSome?_eq_some hnew
      obtain ⟨-, hhead⟩ := Option.ite_none_right_eq_some.1 hfirst
      exact (hbatch p hp).ranges r (List.mem_of_mem_head? hhead)

theorem delete (h : d.Proper) (struck : Finset Policy.Key) : (d.delete struck).Proper := by
  constructor
  · intro x port hport
    exact h.ports x port (Option.ite_none_left_eq_some.1 hport).2
  · intro guid r hr
    exact h.ranges guid r (Option.ite_none_left_eq_some.1 hr).2

end Directory.Proper

namespace Tables

variable {size : Nat} {t : Tables} {e : Entry}

theorem proper_fresh (size : Nat) : (fresh size).directory.Proper := by
  have hslot : ∀ guid, (fresh size).slotOf guid = none := fun guid =>
    slotOf_eq_none.2 (by rw [guids_fresh]; exact List.not_mem_nil)
  constructor
  · intro x port hport
    have hnone : (fresh size).portOf x = none := by rw [portOf, hslot, Option.bind_none]
    cases hnone.symm.trans hport
  · intro guid r hr
    cases (recorded_of_slotOf_eq_none (hslot guid)).symm.trans hr

theorem proper_serve (h : t.Sound size) (hd : t.directory.Proper) {r : Request}
    (hr : ∀ batch, r = .create batch → ∀ p ∈ batch, p.Proper) :
    (t.serve r).directory.Proper := by
  cases r with
  | setUp bytes => exact hd
  | create batch =>
    rw [serve]
    cases he : t.enterAll batch with
    | none => exact hd
    | some t' =>
      rw [Option.getD_some, directory_enterAll h he]
      exact hd.create (hr batch rfl)
  | delete batch =>
    rw [serve, directory_strikeAll h]
    exact hd.delete _
  | createTag n guid type =>
    rw [serve]
    cases hc : t.claim guid (typeOrDefault type) with
    | none => exact hd
    | some found =>
      rw [Option.map_some, Option.getD_some,
        directory_claim h.toCoherent (typeOrDefault_isEmpty type) hc]
      exact ⟨hd.ports, hd.ranges⟩

section Entries
variable (h : t.Coherent size) (hd : t.directory.Proper) (he : e ∈ t.entries)
include h hd he

theorem port_of_proper (m : TagLength) :
    (e.policy m).destination.port = (e.policy m).destination.ports.single := by
  have hports : (e.policy m).destination.ports = e.key.ports := by
    rw [← portRange_policy h he m]
    exact congrArg Policy.Key.ports (key_policy_of_mem h he)
  rw [hports]
  exact hd.ports e.key.target _ (portOf_of_mem h he)

theorem ranges_of_proper : e.ranges = [] ∨ ∃ r, e.ranges = [r] ∧ r.Ordered := by
  rw [ranges_of_mem h he]
  cases hr : t.recorded e.key.destination with
  | none => exact .inl rfl
  | some r =>
    rw [Option.elim_some, AddressRange.shown]
    split
    · exact .inl rfl
    · exact .inr ⟨r, rfl, hd.ranges _ r hr⟩

end Entries

end Tables

/-- By induction on the requests: where only proper policies are created, what is kept of them is
proper. -/
theorem proper_served (n : TagLength) (requests : List Request)
    (hproper : ∀ batch, .create batch ∈ requests → ∀ p ∈ batch, p.Proper) :
    (served n requests).database.tables.directory.Proper := by
  induction requests using List.reverseRecOn with
  | nil =>
    rw [tables_served]
    exact Tables.proper_fresh n.poolSize
  | append_singleton earlier r ih =>
    rw [tables_served_concat]
    exact Tables.proper_serve (serves_served n earlier).sound
      (ih fun batch hb => hproper batch (List.mem_append_left _ hb))
      fun batch he => hproper batch (he ▸ List.mem_append_right _ List.mem_cons_self)

/-- Whatever bodies were sent, a listing shows only what an accepted body may say: both ends are
named, the protocol is known, the ports are a range and the single port is that of the range, and
there is at most one range of addresses, with ordered ends of one family. -/
theorem listed_policies_proper (n m : TagLength) (calls : List Call) :
    ∃ listed, (Store.all m).on (called n calls) = (.ok listed, called n calls) ∧
      ∀ p ∈ listed, p.source.id ≠ "" ∧ p.destination.id ≠ "" ∧
        (p.destination.protocol = "tcp" ∨ p.destination.protocol = "udp") ∧
        (1 ≤ p.destination.ports.first.toNat ∧
          p.destination.ports.first.toNat ≤ p.destination.ports.last.toNat ∧
          p.destination.ports.last.toNat ≤ 65535) ∧
        (p.destination.port = if p.destination.ports.first = p.destination.ports.last then
          p.destination.ports.first else 0) ∧
        (p.destination.ranges = [] ∨ ∃ r, p.destination.ranges = [r] ∧ r.Ordered) := by
  have hs : (called n calls).Serves n.poolSize := serves_served n _
  have h := hs.sound.toCoherent
  have hproper : (called n calls).database.tables.directory.Proper :=
    proper_served n _ fun batch hbatch => by
      obtain ⟨body, haccepted⟩ := Call.exists_accepted hbatch
      exact Payload.proper_of_accept haccepted
  refine ⟨_, hs.all m, fun p hp => ?_⟩
  obtain ⟨e, he, rfl⟩ := List.mem_map.1 hp
  have hvalid : (e.policy m).key.Valid := by
    rw [Tables.key_policy_of_mem h he]
    exact keys_called_valid n calls _ (List.mem_map.2 ⟨e, he, rfl⟩)
  have hports : (e.policy m).key.ports = (e.policy m).destination.ports :=
    Tables.portRange_policy h he m
  have hlt : (e.policy m).destination.ports.last.toNat < 2 ^ 16 := UInt16.toNat_lt _
  refine ⟨hvalid.source, hvalid.destination, hvalid.protocol, ⟨?_, ?_, by omega⟩,
    Tables.port_of_proper h hproper he m, Tables.ranges_of_proper h hproper he⟩
  · exact UInt16.le_iff_toNat_le.1 (hports ▸ hvalid.first)
  · exact UInt16.le_iff_toNat_le.1 (hports ▸ hvalid.last)

def rangedPayload : Payload.Policy where
  source := { id := "a" }
  destination := {
    id := "b", protocol := "tcp", ports := ⟨80, 80⟩, ranges := [⟨"10.0.0.1", "10.0.0.9"⟩] }

def rangedCall : Call :=
  .create (Payload.Policies.record.codec.print { policies := [rangedPayload] }).toUTF8

/-- A policy with a range of addresses is listed with it. -/
theorem listed_policies_proper_with_range :
    ∃ listed, (Store.all { bytes := 1 }).on (called { bytes := 1 } [rangedCall]) =
        (.ok listed, called { bytes := 1 } [rangedCall]) ∧
      ∃ p ∈ listed, p.destination.port = 80 ∧
        p.destination.ranges = [⟨"10.0.0.1", "10.0.0.9"⟩] ∧
        AddressRange.Ordered ⟨"10.0.0.1", "10.0.0.9"⟩ := by
  have haccepted : rangedCall.request? = some (.create [rangedPayload.toStored]) := by
    have hbody : Payload.accept Payload.check (Payload.Policies.record.codec.print
        { policies := [rangedPayload] }).toUTF8 = .ok [rangedPayload.toStored] :=
      Payload.accept_eq_ok.2
        ⟨_, Payload.Policies.faithful.parseBytes_print _, by decide +kernel, rfl⟩
    rw [rangedCall, Call.request?, hbody]
    rfl
  have hs : (called { bytes := 1 } [rangedCall]).Serves 255 := serves_served { bytes := 1 } _
  have hshown : ∃ e ∈ (called { bytes := 1 } [rangedCall]).database.tables.entries,
      (e.policy { bytes := 1 }).destination.ports = ⟨80, 80⟩ ∧
        (e.policy { bytes := 1 }).destination.ranges = [⟨"10.0.0.1", "10.0.0.9"⟩] := by
    rw [called, List.filterMap_cons_some haccepted, List.filterMap_nil, tables_served]
    decide +kernel
  obtain ⟨listed, hall, hproper⟩ := listed_policies_proper { bytes := 1 } { bytes := 1 } [rangedCall]
  have hlisted : listed = _ := Except.ok.inj (congrArg Prod.fst (hall.symm.trans (hs.all _)))
  obtain ⟨e, he, hports, hranges⟩ := hshown
  have hp : e.policy { bytes := 1 } ∈ listed := hlisted ▸ List.mem_map.2 ⟨e, he, rfl⟩
  obtain ⟨-, -, -, -, hport, hnone | ⟨r, hr, hordered⟩⟩ := hproper _ hp
  · rw [hranges] at hnone
    cases hnone
  · rw [hranges] at hr
    rw [hports] at hport
    cases hr
    exact ⟨listed, hall, _, hp, hport, hranges, hordered⟩

end NetworkPolicy
