import NetworkPolicy.Proofs.Slots
import NetworkPolicy.Store.Batch

namespace NetworkPolicy

/-- Every table is there, and claims are honoured. -/
def Schema.complete : Schema where
  groups := .full
  destinations := true
  policies := true
  ranges := true

namespace Tables

/-- Rows refer to rows that are there, and no row repeats another one. -/
structure Coherent (size : Nat) (t : Tables) : Prop where
  schema : t.schema = .complete
  pool : Pool size t.slots
  destinationIds : (t.destinations.map (·.id)).Nodup
  taken : ∀ d ∈ t.destinations, d.id ≤ t.lastDestination
  keys : (t.destinations.map (·.toDestinationKey)).Nodup
  written : ∀ d ∈ t.destinations, ∃ e : Destination,
    d.toDestinationKey = Store.destinationKey d.group e ∧ d.port = e.legacyPort.toNat
  owners : ∀ d ∈ t.destinations, Claimed t.slots d.group
  policies : t.policies.Nodup
  sources : ∀ p ∈ t.policies, Claimed t.slots p.source
  targets : ∀ p ∈ t.policies, ∃ d ∈ t.destinations, d.id = p.destination
  ranges : (t.ranges.map (·.group)).Nodup
  rangeOwners : ∀ r ∈ t.ranges, Claimed t.slots r.group

def Needs (t : Tables) (group : Int) : Prop :=
  (∃ p ∈ t.policies, p.source = group) ∨ ∃ d ∈ t.destinations, d.group = group

/-- Nothing is kept that no policy needs. -/
structure Sound (size : Nat) (t : Tables) : Prop extends Coherent size t where
  pointed : ∀ d ∈ t.destinations, ∃ p ∈ t.policies, p.destination = d.id
  used : ∀ r ∈ t.ranges, t.Needs r.group

/-- The number of the slot of the guid, which is given one if it has none and one is free. -/
def claim (t : Tables) (guid type : String) : Option (Int × Tables) :=
  match t.slotOf guid with
  | some s => some (s.id, t)
  | none => t.freeSlot.map fun s => (s.id, t.fillSlot s.id (some guid) (some type))

def putDestination (t : Tables) (key : DestinationKey) (port : Int) : Tables :=
  let id := t.lastDestination + 1
  if (t.findDestination key).isSome then { t with lastDestination := id }
  else { t with
    destinations := t.destinations ++ [{ toDestinationKey := key, id, port }]
    lastDestination := id }

/-- Records the first of the ranges unless the group has one. -/
def putRange (t : Tables) (group : Int) : List AddressRange → Tables
  | [] => t
  | r :: _ =>
    if (t.rangeOf group).isSome then t
    else { t with ranges := t.ranges ++ [⟨group, r.first, r.last⟩] }

def put (t : Tables) (group : Int) (e : Destination) : Tables :=
  (t.putDestination (Store.destinationKey group e) e.legacyPort.toNat).putRange group e.ranges

def putPolicy (t : Tables) (p : PolicyRow) : Tables :=
  if t.policies.contains p then t else { t with policies := t.policies ++ [p] }

def dropUnpointed (t : Tables) (destination : Int) : Tables :=
  if t.countByDestination destination = 0 then
    { t with destinations := t.destinations.filter (·.id ≠ destination) }
  else t

/-- Gives up the range and the slot of a group that nothing is of. -/
def giveUp (t : Tables) (group : Int) : Tables :=
  if t.countByGroup group = 0 ∧ t.countReferencing group = 0 then
    (t.dropRange group).releaseSlot group
  else t

section Untouched
variable (t : Tables) (key : DestinationKey) (port id group : Int) (ranges : List AddressRange)
  (p : PolicyRow)

@[simp] theorem putDestination_slots : (t.putDestination key port).slots = t.slots := by
  unfold putDestination
  split <;> rfl

@[simp] theorem putDestination_policies : (t.putDestination key port).policies = t.policies := by
  unfold putDestination
  split <;> rfl

@[simp] theorem putDestination_ranges : (t.putDestination key port).ranges = t.ranges := by
  unfold putDestination
  split <;> rfl

@[simp] theorem putRange_slots : (t.putRange group ranges).slots = t.slots := by
  cases ranges with
  | nil => rfl
  | cons r _ =>
    rw [putRange]
    split <;> rfl

@[simp] theorem putRange_destinations :
    (t.putRange group ranges).destinations = t.destinations := by
  cases ranges with
  | nil => rfl
  | cons r _ =>
    rw [putRange]
    split <;> rfl

@[simp] theorem putRange_policies : (t.putRange group ranges).policies = t.policies := by
  cases ranges with
  | nil => rfl
  | cons r _ =>
    rw [putRange]
    split <;> rfl

@[simp] theorem put_slots (e : Destination) : (t.put group e).slots = t.slots := by
  rw [put, putRange_slots, putDestination_slots]

@[simp] theorem put_policies (e : Destination) : (t.put group e).policies = t.policies := by
  rw [put, putRange_policies, putDestination_policies]

@[simp] theorem putPolicy_slots : (t.putPolicy p).slots = t.slots := by
  unfold putPolicy
  split <;> rfl

@[simp] theorem putPolicy_destinations : (t.putPolicy p).destinations = t.destinations := by
  unfold putPolicy
  split <;> rfl

@[simp] theorem putPolicy_ranges : (t.putPolicy p).ranges = t.ranges := by
  unfold putPolicy
  split <;> rfl

@[simp] theorem dropUnpointed_slots : (t.dropUnpointed id).slots = t.slots := by
  unfold dropUnpointed
  split <;> rfl

@[simp] theorem dropUnpointed_policies : (t.dropUnpointed id).policies = t.policies := by
  unfold dropUnpointed
  split <;> rfl

@[simp] theorem dropUnpointed_ranges : (t.dropUnpointed id).ranges = t.ranges := by
  unfold dropUnpointed
  split <;> rfl

@[simp] theorem giveUp_destinations : (t.giveUp group).destinations = t.destinations := by
  unfold giveUp
  split <;> rfl

@[simp] theorem giveUp_policies : (t.giveUp group).policies = t.policies := by
  unfold giveUp
  split <;> rfl

end Untouched

section Lookups
variable {size : Nat} {t : Tables} {key : DestinationKey} {d : DestinationRow} {id group : Int}

theorem Coherent.eq_of_id (h : t.Coherent size) {d e : DestinationRow} (hd : d ∈ t.destinations)
    (he : e ∈ t.destinations) (hid : d.id = e.id) : d = e :=
  List.inj_on_of_nodup_map h.destinationIds hd he hid

theorem Coherent.eq_of_key (h : t.Coherent size) {d e : DestinationRow} (hd : d ∈ t.destinations)
    (he : e ∈ t.destinations) (hk : d.toDestinationKey = e.toDestinationKey) : d = e :=
  List.inj_on_of_nodup_map h.keys hd he hk

theorem findDestination_eq_some (h : t.Coherent size) :
    t.findDestination key = some d ↔ d ∈ t.destinations ∧ d.toDestinationKey = key := by
  constructor
  · intro hd
    exact ⟨List.mem_of_find?_eq_some hd, by simpa using List.find?_some hd⟩
  · rintro ⟨hd, rfl⟩
    refine find?_eq_some_of_unique hd (by simp) fun e he hk => h.eq_of_key he hd ?_
    simpa using hk

theorem destinationAt_eq_some (h : t.Coherent size) :
    t.destinationAt id = some d ↔ d ∈ t.destinations ∧ d.id = id := by
  constructor
  · intro hd
    exact ⟨List.mem_of_find?_eq_some hd, by simpa using List.find?_some hd⟩
  · rintro ⟨hd, rfl⟩
    refine find?_eq_some_of_unique hd (by simp) fun e he hid => h.eq_of_id he hd ?_
    simpa using hid

theorem findDestination_eq_none : t.findDestination key = none ↔
    ∀ d ∈ t.destinations, d.toDestinationKey ≠ key := by
  simp [findDestination, List.find?_eq_none]

theorem rangeOf_eq_none : t.rangeOf group = none ↔ ∀ r ∈ t.ranges, r.group ≠ group := by
  simp [rangeOf, List.find?_eq_none]

theorem slotAt_isSome_of_claimed (hc : Claimed t.slots id) : (t.slotAt id).isSome = true := by
  obtain ⟨s, hs, hid, -⟩ := hc
  exact List.find?_isSome.2 ⟨s, hs, by simpa using hid⟩

theorem countByDestination_eq_zero :
    t.countByDestination id = 0 ↔ ∀ p ∈ t.policies, p.destination ≠ id := by
  simp [countByDestination, List.countP_eq_zero]

theorem claim_cases {guid type : String} {t' : Tables} (hc : t.claim guid type = some (id, t')) :
    (∃ s, t.slotOf guid = some s ∧ id = s.id ∧ t' = t) ∨
      ∃ s, guid ∉ t.guids ∧ t.freeSlot = some s ∧ id = s.id ∧
        t' = t.fillSlot s.id (some guid) (some type) := by
  unfold claim at hc
  cases ho : t.slotOf guid with
  | some s =>
    rw [ho] at hc
    cases hc
    exact .inl ⟨s, rfl, rfl, rfl⟩
  | none =>
    rw [ho] at hc
    obtain ⟨s, hs, he⟩ := Option.map_eq_some_iff.1 hc
    cases he
    exact .inr ⟨s, slotOf_eq_none.1 ho, hs, rfl, rfl⟩

theorem claim_eq_none {guid type : String} :
    t.claim guid type = none ↔ guid ∉ t.guids ∧ t.freeSlot = none := by
  unfold claim
  rw [← slotOf_eq_none]
  cases t.slotOf guid <;> simp

/-- The two counts of a group are zero exactly when nothing is of it. -/
theorem counts_eq_zero :
    (t.countByGroup group = 0 ∧ t.countReferencing group = 0) ↔ ¬ t.Needs group := by
  have hd : t.countReferencing group = 0 ↔ ∀ d ∈ t.destinations, d.group ≠ group := by
    simp [countReferencing, List.countP_eq_zero]
  have hp : (∀ d ∈ t.destinations, d.group ≠ group) →
      (t.countByGroup group = 0 ↔ ∀ p ∈ t.policies, p.source ≠ group) := by
    intro hnone
    have howned : t.destinations.filter (·.group = group) = [] := by simpa using hnone
    simp [countByGroup, howned, List.countP_eq_zero]
  rw [hd]
  constructor
  · rintro ⟨hcount, hnone⟩ (⟨p, hpm, hps⟩ | ⟨d, hdm, hdg⟩)
    · exact (hp hnone).1 hcount p hpm hps
    · exact hnone d hdm hdg
  · intro hneeds
    have hnone : ∀ d ∈ t.destinations, d.group ≠ group := fun d hdm e => hneeds (.inr ⟨d, hdm, e⟩)
    exact ⟨(hp hnone).2 fun p hpm e => hneeds (.inl ⟨p, hpm, e⟩), hnone⟩

end Lookups

end Tables

end NetworkPolicy
