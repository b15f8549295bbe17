import NetworkPolicy.Proofs.Coherence

namespace NetworkPolicy

section Concat
variable {α β : Type} {l : List α} {x : α}

theorem forall_mem_concat {P : α → Prop} (hl : ∀ a ∈ l, P a) (hx : P x) : ∀ a ∈ l ++ [x], P a := by
  intro a ha
  rcases List.mem_append.1 ha with ha | ha
  · exact hl a ha
  · rw [List.mem_singleton.1 ha]
    exact hx

theorem nodup_map_concat {f : α → β} (hl : (l.map f).Nodup) (hx : ∀ a ∈ l, f a ≠ f x) :
    ((l ++ [x]).map f).Nodup := by
  rw [List.map_append, List.nodup_append]
  refine ⟨hl, List.nodup_singleton _, ?_⟩
  intro b hb c hc hbc
  obtain ⟨a, ha, rfl⟩ := List.mem_map.1 hb
  exact hx a ha (hbc.trans (List.mem_singleton.1 hc))

end Concat

namespace Tables

variable {size : Nat} {t : Tables} {group : Int}

theorem Coherent.withSlots (h : t.Coherent size) {slots : List Slot} (hp : Pool size slots)
    (hc : ∀ id, Claimed t.slots id → (t.Needs id ∨ ∃ r ∈ t.ranges, r.group = id) →
      Claimed slots id) : ({ t with slots } : Tables).Coherent size :=
  { h with
    pool := hp
    owners := fun d hd => hc _ (h.owners d hd) (.inl (.inr ⟨d, hd, rfl⟩))
    sources := fun p hpm => hc _ (h.sources p hpm) (.inl (.inl ⟨p, hpm, rfl⟩))
    rangeOwners := fun r hr => hc _ (h.rangeOwners r hr) (.inr ⟨r, hr, rfl⟩) }

theorem Coherent.giveSlot (h : t.Coherent size) {s : Slot} {guid type : String}
    (hs : t.freeSlot = some s) (hg : guid ∉ t.guids) (ht : type.isEmpty = false) :
    (t.fillSlot s.id (some guid) (some type)).Coherent size :=
  h.withSlots (pool_giveSlot h.pool hs hg ht) fun _ hid _ =>
    (claimed_giveSlot h.pool hs).2 (.inl hid)

theorem slotOf_giveSlot (h : t.Coherent size) {s : Slot} {guid type : String}
    (hs : t.freeSlot = some s) (hg : guid ∉ t.guids) (ht : type.isEmpty = false) :
    (t.fillSlot s.id (some guid) (some type)).slotOf guid = some ⟨s.id, some guid, some type⟩ :=
  (slotOf_eq_some (h.giveSlot hs hg ht).pool).2
    ⟨(mem_fillSlot h.pool (freeSlot_eq_some hs).1).2 (.inr rfl), rfl⟩

/-- A claim keeps the tables coherent, and the slot that it answers with is claimed. -/
theorem Coherent.claim (h : t.Coherent size) {guid type : String} (ht : type.isEmpty = false)
    {id : Int} {t' : Tables} (hc : t.claim guid type = some (id, t')) :
    t'.Coherent size ∧ Claimed t'.slots id ∧ ∀ i, Claimed t.slots i → Claimed t'.slots i := by
  obtain ⟨s, hs, rfl, rfl⟩ | ⟨s, hg, hs, rfl, rfl⟩ := claim_cases hc
  · exact ⟨h, claimed_of_slotOf hs, fun _ hi => hi⟩
  · refine ⟨h.giveSlot hs hg ht, (claimed_giveSlot h.pool hs).2 (.inr rfl), fun i hi => ?_⟩
    exact (claimed_giveSlot h.pool hs).2 (.inl hi)

theorem Coherent.putDestination (h : t.Coherent size) {e : Destination}
    (hc : Claimed t.slots group) :
    (t.putDestination (Store.destinationKey group e) e.legacyPort.toNat).Coherent size := by
  have hnext : ∀ d ∈ t.destinations, d.id ≤ t.lastDestination + 1 := fun d hd =>
    Int.le_trans (h.taken d hd) (Int.le_add_one (Int.le_refl _))
  unfold Tables.putDestination
  split
  · exact { h with taken := hnext }
  · next hnone =>
    have hnew : ∀ d ∈ t.destinations, d.toDestinationKey ≠ Store.destinationKey group e :=
      findDestination_eq_none.1 (by simpa using hnone)
    refine { h with
      destinationIds := nodup_map_concat h.destinationIds fun d hd hid => ?_
      taken := forall_mem_concat hnext (Int.le_refl _)
      keys := nodup_map_concat h.keys hnew
      written := forall_mem_concat h.written ⟨e, rfl, rfl⟩
      owners := forall_mem_concat h.owners hc
      targets := fun p hp => ?_ }
    · have hle := h.taken d hd
      have hid : d.id = t.lastDestination + 1 := hid
      omega
    · obtain ⟨d, hd, hid⟩ := h.targets p hp
      exact ⟨d, List.mem_append_left _ hd, hid⟩

theorem Coherent.putRange (h : t.Coherent size) (hc : Claimed t.slots group)
    (ranges : List AddressRange) : (t.putRange group ranges).Coherent size := by
  cases ranges with
  | nil => exact h
  | cons r _ =>
    rw [Tables.putRange]
    split
    · exact h
    · next hnone =>
      have hnew : ∀ r ∈ t.ranges, r.group ≠ group := rangeOf_eq_none.1 (by simpa using hnone)
      exact { h with
        ranges := nodup_map_concat h.ranges hnew
        rangeOwners := forall_mem_concat h.rangeOwners hc }

theorem Coherent.put (h : t.Coherent size) (hc : Claimed t.slots group) (e : Destination) :
    (t.put group e).Coherent size :=
  (h.putDestination hc).putRange (by simpa using hc) e.ranges

theorem Coherent.putPolicy (h : t.Coherent size) {p : PolicyRow} (hs : Claimed t.slots p.source)
    (hd : ∃ d ∈ t.destinations, d.id = p.destination) : (t.putPolicy p).Coherent size := by
  unfold Tables.putPolicy
  split
  · exact h
  · next hnone =>
    have hnew : p ∉ t.policies := by simpa using hnone
    exact { h with
      policies := List.nodup_append.2 ⟨h.policies, List.nodup_singleton _, fun q hq q' hq' e =>
        hnew (List.mem_singleton.1 hq' ▸ e ▸ hq)⟩
      sources := forall_mem_concat h.sources hs
      targets := forall_mem_concat h.targets hd }

theorem Coherent.removePolicy (h : t.Coherent size) (p : PolicyRow) :
    (t.removePolicy p).2.Coherent size :=
  { h with
    policies := h.policies.filter _
    sources := fun q hq => h.sources q (List.mem_filter.1 hq).1
    targets := fun q hq => h.targets q (List.mem_filter.1 hq).1 }

theorem Coherent.dropUnpointed (h : t.Coherent size) (id : Int) :
    (t.dropUnpointed id).Coherent size := by
  unfold Tables.dropUnpointed
  split
  · next hzero =>
    have hnone := countByDestination_eq_zero.1 hzero
    refine { h with
      destinationIds := h.destinationIds.sublist (List.filter_sublist.map _)
      taken := fun d hd => h.taken d (List.mem_filter.1 hd).1
      keys := h.keys.sublist (List.filter_sublist.map _)
      written := fun d hd => h.written d (List.mem_filter.1 hd).1
      owners := fun d hd => h.owners d (List.mem_filter.1 hd).1
      targets := ?_ }
    intro p hp
    obtain ⟨d, hd, hid⟩ := h.targets p hp
    exact ⟨d, List.mem_filter.2 ⟨hd, by simpa [hid] using hnone p hp⟩, hid⟩
  · exact h

theorem Coherent.giveUp (h : t.Coherent size) {s : Slot} (hs : s ∈ t.slots) :
    (t.giveUp s.id).Coherent size := by
  unfold Tables.giveUp
  split
  · next hzero =>
    have hneeds := counts_eq_zero.1 hzero
    have hdrop : (t.dropRange s.id).Coherent size :=
      { h with
        ranges := h.ranges.sublist (List.filter_sublist.map _)
        rangeOwners := fun r hr => h.rangeOwners r (List.mem_filter.1 hr).1 }
    apply hdrop.withSlots (pool_releaseSlot h.pool hs)
    intro id hid hof
    refine (claimed_releaseSlot h.pool hs).2 ⟨hid, ?_⟩
    -- no row is of the group: policies and destinations are not, and its range went first
    rintro rfl
    rcases hof with hof | ⟨r, hr, hrg⟩
    · exact hneeds hof
    · simpa [hrg] using (List.mem_filter.1 hr).2
  · exact h

end Tables

end NetworkPolicy
