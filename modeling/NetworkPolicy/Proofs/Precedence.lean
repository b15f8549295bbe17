import NetworkPolicy.Proofs.Directory
import NetworkPolicy.Proofs.Ledger
import NetworkPolicy.Proofs.Ranges
import NetworkPolicy.Proofs.Restoration

namespace NetworkPolicy

namespace Tables

variable {size : Nat} {t t' : Tables} {batch : List Policy} {e : Entry}

theorem entries_enterAll_new (h : t.Sound size) (he : t.enterAll batch = some t') :
    ∃ more, t'.entries = (t.entries.map fun e => e.withRange (t'.rangeOf e.group.id)) ++ more ∧
      more.map Entry.key = Ledger.newKeys t.keys batch := by
  obtain ⟨-, hkeys, -⟩ := h.enterAll he
  obtain ⟨more, hmore, -⟩ := entries_enterAll h he
  have hsplit : t'.keys = t.keys ++ more.map Entry.key := by
    rw [keys, hmore, List.map_append, List.map_map]
    rfl
  rw [Ledger.foldl_noted] at hkeys
  exact ⟨more, hmore, List.append_cancel_left (hsplit.symm.trans hkeys)⟩

theorem port_of_mem_enterAll (h : t.Sound size) (he : t.enterAll batch = some t')
    (hem : e ∈ t'.entries) : some e.destination.port.toNat.toUInt16 =
      (t.portOf e.key.target).or (Policy.firstPort batch e.key.target) := by
  obtain ⟨h', -, -⟩ := h.enterAll he
  rw [← portOf_enterAll h he, portOf_of_mem h'.toCoherent hem]

end Tables

/-- After a creation the policies that were listed are listed in their places, with nothing changed
but ranges, and the new ones behind them. The single port of a policy is the one that was kept for
its target, or else that of the first policy of the batch to the target. The range recorded for a
guid is the one that was, or else the first range of the first policy of the batch to the guid that
has one, and every policy to the guid shows it, unless one of its addresses is empty. -/
theorem creation_keeps_precedence (n m : TagLength) (requests : List Request)
    (batch : List Policy) (s' : Session)
    (hcreated : (Store.create batch).on (served n requests) = (.ok (), s')) :
    let t := (served n requests).database.tables
    ∃ listed old new, (Store.all m).on (served n requests) = (.ok listed, served n requests) ∧
      (Store.all m).on s' = (.ok (old ++ new), s') ∧
      List.Forall₂ (fun p q => q = p.withRanges q.destination.ranges) listed old ∧
      new.map Policy.key = Ledger.newKeys t.keys batch ∧
      (∀ q ∈ old ++ new, some q.destination.port =
        (t.portOf q.key.target).or (Policy.firstPort batch q.key.target)) ∧
      (∀ guid, s'.database.tables.recorded guid =
        (t.recorded guid).or (Policy.firstRange batch guid)) ∧
      ∀ q ∈ old ++ new, q.destination.ranges =
        (s'.database.tables.recorded q.destination.id).elim [] AddressRange.shown := by
  intro t
  have hs := serves_served n requests
  have h : t.Sound n.poolSize := hs.sound
  obtain ⟨t', he, rfl⟩ := hs.entered_of_create hcreated
  obtain ⟨h', -, -⟩ := h.enterAll he
  have hkey : ∀ e ∈ t'.entries, (e.policy m).key = e.key := fun e hem =>
    Tables.key_policy_of_mem h'.toCoherent hem
  obtain ⟨more, hmore, hnew⟩ := Tables.entries_enterAll_new h he
  have hlisted := (hs.withTables h').all m
  rw [Session.withTables_tables, hmore, List.map_append, List.map_map] at hlisted
  have hmem : ∀ q ∈ t.entries.map (Entry.policy m ∘ fun e => e.withRange (t'.rangeOf e.group.id)) ++
      more.map (Entry.policy m), ∃ e ∈ t'.entries, e.policy m = q := by
    intro q hq
    rwa [← List.map_map, ← List.map_append, ← hmore, List.mem_map] at hq
  refine ⟨_, _, _, hs.all m, hlisted, ?_, ?_, ?_, fun guid => Tables.recorded_enterAll h he, ?_⟩
  · rw [List.forall₂_map_left_iff, List.forall₂_map_right_iff, List.forall₂_same]
    exact fun e _ => rfl
  · rw [← hnew, List.map_map]
    refine List.map_congr_left fun e hem => hkey e ?_
    rw [hmore]
    exact List.mem_append_right _ hem
  · intro q hq
    obtain ⟨e, hem, rfl⟩ := hmem q hq
    rw [hkey e hem]
    exact Tables.port_of_mem_enterAll h he hem
  · intro q hq
    obtain ⟨e, hem, rfl⟩ := hmem q hq
    exact Tables.ranges_of_mem h'.toCoherent hem

def portedTo (source : String) (port : UInt16) (ports : Ports) (ranges : List AddressRange) :
    Policy where
  source := { id := source }
  destination := { id := "b", protocol := "tcp", port, ports, ranges }

def firstRequests : List Request :=
  [.create [portedTo "c" 85 ⟨80, 90⟩ [⟨"10.0.0.1", "10.0.0.9"⟩], Store.link "a" "e" "tcp" 443]]

/-- Policies that come too late with a single port or a range, or with one that is not shown. -/
def lateBatch : List Policy := [
  portedTo "a" 0 ⟨80, 90⟩ [⟨"10.0.0.5", "10.0.0.9"⟩],
  Store.link "a" "d" "udp" 53,
  { source := { id := "c" }
    destination := {
      id := "d", protocol := "udp", port := 99, ports := ⟨53, 53⟩
      ranges := [⟨"10.0.1.1", "10.0.1.9"⟩] } },
  (Store.link "c" "e" "tcp" 444).withRanges [⟨"", "10.0.2.9"⟩]]

/-- The late policies show what the first ones to their targets brought; the range that the third of
them brings is shown by the second one too, and that of the last one by none. -/
theorem creation_keeps_precedence_late :
    ∃ s' policies, (Store.create lateBatch).on (served { bytes := 1 } firstRequests) = (.ok (), s') ∧
      (Store.all { bytes := 1 }).on s' = (.ok policies, s') ∧
      policies.map (fun q => (q.source.id, q.destination.id)) =
        [("c", "b"), ("a", "e"), ("a", "b"), ("a", "d"), ("c", "d"), ("c", "e")] ∧
      policies.map (·.destination.port) = [85, 443, 85, 53, 53, 444] ∧
      policies.map (·.destination.ranges) = [[⟨"10.0.0.1", "10.0.0.9"⟩], [],
        [⟨"10.0.0.1", "10.0.0.9"⟩], [⟨"10.0.1.1", "10.0.1.9"⟩], [⟨"10.0.1.1", "10.0.1.9"⟩], []] := by
  have hs := serves_served { bytes := 1 } firstRequests
  have hroom : ((served { bytes := 1 } firstRequests).database.tables.enterAll lateBatch).isSome := by
    rw [tables_served]
    decide +kernel
  have hcreated := hs.create_after hroom
  obtain ⟨-, old, new, -, hall, -⟩ :=
    creation_keeps_precedence { bytes := 1 } { bytes := 1 } firstRequests lateBatch _ hcreated
  have hlisted : old ++ new = _ :=
    Except.ok.inj (congrArg Prod.fst (hall.symm.trans ((hs.after _).all _)))
  refine ⟨_, _, hcreated, hall, ?_⟩
  rw [hlisted, hs.tables_after, tables_served]
  decide +kernel

end NetworkPolicy
