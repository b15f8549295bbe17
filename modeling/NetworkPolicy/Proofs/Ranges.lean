import NetworkPolicy.Proofs.Atomicity
import NetworkPolicy.Proofs.Growth
import NetworkPolicy.Proofs.Requests

namespace NetworkPolicy

/-- What a listing shows of a range: nothing, unless both its addresses are there. -/
def AddressRange.shown (r : AddressRange) : List AddressRange :=
  if r.first.isEmpty || r.last.isEmpty then [] else [r]

theorem AddressRange.shown_eq_self {r : AddressRange} (hfirst : r.first ≠ "") (hlast : r.last ≠ "") :
    r.shown = [r] := by
  simp [shown, hfirst, hlast]

namespace Tables

/-- The guid holds a slot that a destination is of. -/
def Owns (t : Tables) (guid : String) : Prop :=
  ∃ s ∈ t.slots, s.guid = some guid ∧ ∃ d ∈ t.destinations, d.group = s.id

instance (t : Tables) (guid : String) : Decidable (t.Owns guid) :=
  inferInstanceAs (Decidable (∃ s ∈ t.slots, _ ∧ ∃ d ∈ t.destinations, _))

variable {size : Nat} {t t' : Tables} {e : Entry} {g : String}

theorem ranges_of_mem (h : t.Coherent size) (he : e ∈ t.entries) :
    e.ranges = (t.recorded e.key.destination).elim [] AddressRange.shown := by
  obtain ⟨hj, hr⟩ := (mem_entries h).1 he
  have hslot : t.slotOf e.key.destination = some e.group :=
    (slotOf_eq_some h.pool).2 ⟨hj.group, (hj.tells h hr).group⟩
  rw [recorded_of_slotOf hslot, Entry.ranges, hj.range]
  cases t.rangeOf e.group.id <;> rfl

theorem Sound.source_of_recorded (h : t.Sound size) (howns : ¬ t.Owns g)
    (hrecorded : t.recorded g ≠ none) : ∃ k ∈ t.keys, k.source = g := by
  cases hs : t.slotOf g with
  | none => exact absurd (recorded_of_slotOf_eq_none hs) hrecorded
  | some s =>
    rw [recorded_of_slotOf hs, ne_eq, Option.map_eq_none_iff, ← ne_eq,
      Option.ne_none_iff_exists'] at hrecorded
    obtain ⟨r, hr⟩ := hrecorded
    obtain ⟨hsmem, hsguid⟩ := (slotOf_eq_some h.pool).1 hs
    have hgroup : r.group = s.id := by simpa using List.find?_some hr
    -- a range is of a group that is needed, and here no destination needs it
    rcases h.used r (List.mem_of_find?_eq_some hr) with ⟨p, hp, hps⟩ | ⟨d, hd, hdg⟩
    · obtain ⟨e, he⟩ := entry_exists h.toCoherent hp
      obtain ⟨hj, rfl⟩ := (entry_eq_some h.toCoherent).1 he
      have hmem : e ∈ t.entries := (mem_entries h.toCoherent).2 ⟨hj, hp⟩
      have hsource : e.source = s := h.pool.eq_of_id hj.source hsmem (hps.trans hgroup)
      refine ⟨e.key, List.mem_map.2 ⟨e, hmem, rfl⟩, ?_⟩
      rw [Entry.key, hsource, hsguid, Option.getD_some]
    · exact absurd ⟨s, hsmem, hsguid, d, hd, hdg.trans hgroup⟩ howns

theorem entry_enterAll_singleton (h : t.Sound size) {p : Policy} (he : t.enterAll [p] = some t') :
    ∃ e ∈ t'.entries, e.key = p.key ∧ (∀ e' ∈ t'.entries, e'.key = p.key → e' = e) ∧
      e.ranges = ((t.recorded p.destination.id).or p.destination.ranges.head?).elim []
        AddressRange.shown := by
  obtain ⟨h', -, -⟩ := h.enterAll he
  obtain ⟨e, hem, hkey⟩ := List.mem_map.1 ((mem_keys_enterAll h he).2 (.inr List.mem_cons_self))
  have hdestination : e.key.destination = p.destination.id := congrArg Policy.Key.destination hkey
  refine ⟨e, hem, hkey, fun e' hem' hkey' => ?_, ?_⟩
  · exact List.inj_on_of_nodup_map (nodup_keys h'.toCoherent) hem' hem (hkey'.trans hkey.symm)
  · rw [ranges_of_mem h'.toCoherent hem, hdestination, recorded_enterAll h he]
    simp [Policy.firstRange]

end Tables

/-- A policy to a guid that owns no destination is listed with its own range, unless an older one is
recorded for the guid; and that is so only while some policy is from it. -/
theorem created_policy_shows_range (n m : TagLength) (requests : List Request) (p : Policy)
    (r : AddressRange) (rest : List AddressRange) (s' : Session)
    (hranges : p.destination.ranges = r :: rest) (hfirst : r.first ≠ "") (hlast : r.last ≠ "")
    (howns : ¬ (served n requests).database.tables.Owns p.destination.id)
    (hcreated : (Store.create [p]).on (served n requests) = (.ok (), s')) :
    let t := (served n requests).database.tables
    ∃ listed q, (Store.all m).on s' = (.ok listed, s') ∧ q ∈ listed ∧ q.key = p.key ∧
      (∀ q' ∈ listed, q'.key = p.key → q' = q) ∧
      q.destination.ranges = ((t.recorded p.destination.id).getD r).shown ∧
      ((∀ k ∈ t.keys, k.source ≠ p.destination.id) → q.destination.ranges = [r]) := by
  intro t
  have hs := serves_served n requests
  have h : t.Sound n.poolSize := hs.sound
  obtain ⟨t', he, rfl⟩ := hs.entered_of_create hcreated
  obtain ⟨h', -, -⟩ := h.enterAll he
  obtain ⟨e, hem, hkey, hunique, hshown⟩ := Tables.entry_enterAll_singleton h he
  have hlisted : ∀ e' ∈ t'.entries, (e'.policy m).key = e'.key := fun e' hem' =>
    Tables.key_policy_of_mem h'.toCoherent hem'
  have hown : (e.policy m).destination.ranges = ((t.recorded p.destination.id).getD r).shown := by
    show e.ranges = _
    rw [hshown, hranges]
    cases t.recorded p.destination.id <;> rfl
  refine ⟨_, e.policy m, (hs.withTables h').all m, List.mem_map.2 ⟨e, hem, rfl⟩,
    (hlisted e hem).trans hkey, ?_, hown, fun hnone => ?_⟩
  · intro q' hq' hkey'
    obtain ⟨e', hem', rfl⟩ := List.mem_map.1 hq'
    rw [hunique e' hem' ((hlisted e' hem').symm.trans hkey')]
  · have hrecorded : t.recorded p.destination.id = none := by
      by_contra hsome
      obtain ⟨k, hk, hsource⟩ := h.source_of_recorded howns hsome
      exact hnone k hk hsource
    rw [hown, hrecorded, Option.getD_none, AddressRange.shown_eq_self hfirst hlast]

def toward (first : String) : Policy where
  source := { id := "a" }
  destination := { id := "b", protocol := "tcp", port := 80, ranges := [⟨first, "10.0.0.9"⟩] }

def earlierRequests : List Request :=
  [.create [Store.link "b" "c" "udp" 53, toward "10.0.0.1"], .delete [toward "10.0.0.1"]]

/-- Where the guid owned a destination before and is still a source. -/
theorem created_policy_shows_range_toward :
    (toward "10.0.0.5").destination.ranges = [⟨"10.0.0.5", "10.0.0.9"⟩] ∧
    ¬ (served { bytes := 1 } earlierRequests).database.tables.Owns "b" ∧
    (Store.create [toward "10.0.0.5"]).on (served { bytes := 1 } earlierRequests) =
      (.ok (), (served { bytes := 1 } earlierRequests).after (.create [toward "10.0.0.5"])) ∧
    ∃ listed q, (Store.all { bytes := 1 }).on
        ((served { bytes := 1 } earlierRequests).after (.create [toward "10.0.0.5"])) =
        (.ok listed, (served { bytes := 1 } earlierRequests).after (.create [toward "10.0.0.5"])) ∧
      q ∈ listed ∧ q.key = (toward "10.0.0.5").key := by
  have howns : ¬ (served { bytes := 1 } earlierRequests).database.tables.Owns "b" := by
    rw [tables_served]
    decide +kernel
  have hroom : ((served { bytes := 1 } earlierRequests).database.tables.enterAll
      [toward "10.0.0.5"]).isSome := by
    rw [tables_served]
    decide +kernel
  have hcreated := (serves_served { bytes := 1 } earlierRequests).create_after hroom
  obtain ⟨listed, q, hall, hq, hkey, -⟩ :=
    created_policy_shows_range { bytes := 1 } { bytes := 1 } earlierRequests (toward "10.0.0.5")
      ⟨"10.0.0.5", "10.0.0.9"⟩ [] _ rfl (by decide) (by decide) howns hcreated
  exact ⟨rfl, howns, hcreated, listed, q, hall, hq, hkey⟩

/-- After the earlier requests the policy is listed with the range of the one that was deleted. -/
theorem created_policy_shows_older_range :
    ¬ (served { bytes := 1 } earlierRequests).database.tables.Owns "b" ∧
    (Store.create [toward "10.0.0.5"]).on (served { bytes := 1 } earlierRequests) =
      (.ok (), (served { bytes := 1 } earlierRequests).after (.create [toward "10.0.0.5"])) ∧
    ∃ listed, (Store.all { bytes := 1 }).on
        ((served { bytes := 1 } earlierRequests).after (.create [toward "10.0.0.5"])) =
        (.ok listed, (served { bytes := 1 } earlierRequests).after (.create [toward "10.0.0.5"])) ∧
      (listed.filter (·.key = (toward "10.0.0.5").key)).map (·.destination.ranges) =
        [[⟨"10.0.0.1", "10.0.0.9"⟩]] := by
  have hs := serves_served { bytes := 1 } earlierRequests
  refine ⟨?_, hs.create_after ?_, _, (hs.after _).all _, ?_⟩
  · rw [tables_served]
    decide +kernel
  · rw [tables_served]
    decide +kernel
  · rw [hs.tables_after, tables_served]
    decide +kernel

end NetworkPolicy
