import NetworkPolicy.Proofs.Growth

namespace NetworkPolicy

/-- What tells destinations apart, with their group named by its guid. -/
@[ext]
structure Target where
  guid : String
  ports : Ports
  protocol : String
  deriving DecidableEq

def Target.within (x : Target) (group : Int) : DestinationKey :=
  ⟨group, x.ports.first.toNat, x.ports.last.toNat, x.protocol⟩

namespace Policy

def Key.target (k : Key) : Target :=
  ⟨k.destination, k.ports, k.protocol⟩

def typeFor (p : Policy) (guid : String) : Option String :=
  if p.source.id = guid then some (typeOrDefault p.source.type)
  else if p.destination.id = guid then some (typeOrDefault p.destination.type)
  else none

/-- The type that a batch brings for a guid, from the first policy that names it. -/
def firstType (batch : List Policy) (guid : String) : Option String :=
  batch.findSome? (·.typeFor guid)

def firstPort (batch : List Policy) (x : Target) : Option UInt16 :=
  batch.findSome? fun p => if p.key.target = x then some p.destination.legacyPort else none

end Policy

@[ext]
structure Directory where
  keys : Finset Policy.Key
  types : String → Option String
  ranges : String → Option AddressRange
  ports : Target → Option UInt16

namespace Directory

/-- There are keys with the property, and all of them are struck out. -/
def Loses (d : Directory) (struck : Finset Policy.Key) (P : Policy.Key → Prop) : Prop :=
  (∃ k ∈ d.keys, P k) ∧ ∀ k ∈ d.keys, P k → k ∈ struck

instance (d : Directory) (struck : Finset Policy.Key) (P : Policy.Key → Prop) [DecidablePred P] :
    Decidable (d.Loses struck P) :=
  inferInstanceAs (Decidable (_ ∧ _))

/-- Adds what a batch brings to what there is. -/
def create (d : Directory) (batch : List Policy) : Directory where
  keys := d.keys ∪ (batch.map Policy.key).toFinset
  types guid := (d.types guid).or (Policy.firstType batch guid)
  ranges guid := (d.ranges guid).or (Policy.firstRange batch guid)
  ports x := (d.ports x).or (Policy.firstPort batch x)

/-- Strikes keys out, and all that was there for their sake alone. -/
def delete (d : Directory) (struck : Finset Policy.Key) : Directory where
  keys := d.keys \ struck
  types guid := if d.Loses struck (guid ∈ ·.ids) then none else d.types guid
  ranges guid := if d.Loses struck (guid ∈ ·.ids) then none else d.ranges guid
  ports x := if d.Loses struck (·.target = x) then none else d.ports x

end Directory

namespace Tables

/-- The type of the slot that the guid holds. -/
def typeOf (t : Tables) (guid : String) : Option String :=
  (t.slotOf guid).bind (·.type)

def portOf (t : Tables) (x : Target) : Option UInt16 :=
  (t.slotOf x.guid).bind fun s =>
    (t.findDestination (x.within s.id)).map (·.port.toNat.toUInt16)

def directory (t : Tables) : Directory where
  keys := t.keys.toFinset
  types := t.typeOf
  ranges := t.recorded
  ports := t.portOf

variable {size : Nat} {t t' : Tables} {s : Slot} {id : Int} {guid type g : String} {x : Target}

section Types

theorem typeOf_of_slotOf (hs : t.slotOf g = some s) : t.typeOf g = s.type := by
  rw [typeOf, hs]
  rfl

theorem typeOf_of_slotOf_eq_none (hs : t.slotOf g = none) : t.typeOf g = none := by
  rw [typeOf, hs]
  rfl

theorem typeOf_isSome_iff (h : t.Coherent size) : (t.typeOf g).isSome ↔ g ∈ t.holders := by
  rw [mem_holders]
  cases hs : t.slotOf g with
  | none =>
    have hnot := slotOf_eq_none.1 hs
    simp [typeOf_of_slotOf_eq_none hs, hnot]
  | some s =>
    obtain ⟨hmem, hg⟩ := (slotOf_eq_some h.pool).1 hs
    obtain ⟨type, htype, -⟩ := h.pool.types s hmem (by rw [hg]; rfl)
    have hheld : g ∈ t.guids := mem_guids.2 ⟨s, hmem, hg⟩
    simp [typeOf_of_slotOf hs, htype, hheld]

theorem typeOf_claim (h : t.Coherent size) (ht : type.isEmpty = false)
    (hc : t.claim guid type = some (id, t')) :
    t'.typeOf g = (t.typeOf g).or (if guid = g then some type else none) := by
  cases hs : t.slotOf g with
  | some s =>
    have hsome := (typeOf_isSome_iff h).2
      (mem_holders.2 (mem_guids.2 ⟨s, (slotOf_eq_some h.pool).1 hs⟩))
    obtain ⟨held, hheld⟩ := Option.isSome_iff_exists.1 hsome
    rw [typeOf_of_slotOf (slotOf_claim_of_some h hc ht hs), ← typeOf_of_slotOf hs, hheld,
      Option.some_or]
  | none =>
    have hnot := slotOf_eq_none.1 hs
    rw [typeOf_of_slotOf_eq_none hs, Option.none_or]
    split
    · next he =>
      subst he
      obtain ⟨a, ha, -, -⟩ | ⟨free, -, hf, -, rfl⟩ := claim_cases hc
      · rw [ha] at hs
        cases hs
      · exact typeOf_of_slotOf (slotOf_giveSlot h hf hnot ht)
    · next he =>
      refine typeOf_of_slotOf_eq_none (slotOf_eq_none.2 fun hg => ?_)
      exact ((mem_guids_claim h hc).1 hg).elim hnot fun e => he e.symm

theorem typeOf_enter (h : t.Sound size) {p : Policy} (he : t.enter p = some t') :
    t'.typeOf g = (t.typeOf g).or (p.typeFor g) := by
  obtain ⟨source, t₁, group, t₂, hsource, hgroup, rfl⟩ := enter_cases he
  have hs := typeOrDefault_isEmpty p.source.type
  have hg := typeOrDefault_isEmpty p.destination.type
  have h₁ := h.claim hs hsource
  have hpoint : (t₂.point source group p.destination).typeOf g = t₂.typeOf g := by
    rw [typeOf, slotOf, point_slots, ← slotOf, ← typeOf]
  rw [hpoint, typeOf_claim h₁.toCoherent hg hgroup, typeOf_claim h.toCoherent hs hsource,
    Option.or_assoc, Policy.typeFor]
  split <;> rfl

theorem typeOf_enterAll (h : t.Sound size) {batch : List Policy}
    (he : t.enterAll batch = some t') :
    t'.typeOf g = (t.typeOf g).or (Policy.firstType batch g) :=
  enterAll_first (f := (typeOf · g)) (fun _ _ _ h he => typeOf_enter h he) h he

end Types

section Ports

theorem portOf_claim (h : t.Coherent size) (ht : type.isEmpty = false)
    (hc : t.claim guid type = some (id, t')) : t'.portOf x = t.portOf x := by
  have hdestinations : t'.destinations = t.destinations := by
    obtain ⟨_, -, -, rfl⟩ | ⟨_, -, -, -, rfl⟩ := claim_cases hc <;> rfl
  have hfind : ∀ key, t'.findDestination key = t.findDestination key := fun key => by
    rw [findDestination, hdestinations, findDestination]
  cases hs : t.slotOf x.guid with
  | some s => simp only [portOf, slotOf_claim_of_some h hc ht hs, hs, hfind]
  | none =>
    cases hs' : t'.slotOf x.guid with
    | none => simp only [portOf, hs, hs', Option.bind_none]
    | some s' =>
      -- the slot that the guid came to hold was free, so no destination is of it
      obtain ⟨r, hr, hid, hfree⟩ := (growsTo_claim h hc).free_of_new hs' hs
      have hnone : t.findDestination (x.within s'.id) = none := by
        refine findDestination_eq_none.2 fun d hd hkey => ?_
        refine not_needs_of_free h hr hfree (.inr ⟨d, hd, ?_⟩)
        rw [hid]
        exact congrArg DestinationKey.group hkey
      simp only [portOf, hs, hs', hfind, Option.bind_some, hnone, Option.map_none, Option.bind_none]

theorem findDestination_putDestination (t : Tables) (key k : DestinationKey) (port : Int) :
    (t.putDestination key port).findDestination k = (t.findDestination k).or
      (if key = k then some { toDestinationKey := key, id := t.lastDestination + 1, port }
        else none) := by
  unfold putDestination
  split
  · next hfound =>
    show t.findDestination k = _
    split
    · next he =>
      obtain ⟨d, hd⟩ := Option.isSome_iff_exists.1 hfound
      rw [← he, hd, Option.some_or]
    · rw [Option.or_none]
  · simp only [findDestination, List.find?_append, List.find?_singleton]
    by_cases he : key = k <;> simp [he]

theorem within_inj {y : Target} {a b : Int} :
    x.within a = y.within b ↔ a = b ∧ x.ports = y.ports ∧ x.protocol = y.protocol := by
  obtain ⟨_, ⟨f, l⟩, _⟩ := x
  obtain ⟨_, ⟨f', l'⟩, _⟩ := y
  simp only [Target.within, DestinationKey.mk.injEq, Ports.mk.injEq, Int.natCast_inj,
    UInt16.toNat_inj, and_assoc]

theorem portOf_point (h : t.Coherent size) (hs : t.slotOf guid = some s) (source : Int)
    (e : Destination) : (t.point source s.id e).portOf x = (t.portOf x).or
      (if (⟨guid, e.portRange, e.protocol⟩ : Target) = x then some e.legacyPort else none) := by
  obtain ⟨d, -, hpoint⟩ := point_eq t source s.id e
  have hslots : (t.point source s.id e).slotOf x.guid = t.slotOf x.guid := by
    rw [slotOf, point_slots, ← slotOf]
  have hfind : ∀ k, (t.point source s.id e).findDestination k =
      (t.putDestination (Store.destinationKey s.id e) e.legacyPort.toNat).findDestination k := by
    intro k
    rw [hpoint, findDestination, putPolicy_destinations, put, putRange_destinations,
      ← findDestination]
  simp only [portOf, hslots, hfind, findDestination_putDestination]
  obtain ⟨hsmem, hsguid⟩ := (slotOf_eq_some h.pool).1 hs
  cases ha : t.slotOf x.guid with
  | none =>
    have hne : (⟨guid, e.portRange, e.protocol⟩ : Target) ≠ x := by
      rintro rfl
      rw [ha] at hs
      cases hs
    rw [if_neg hne]
    rfl
  | some a =>
    obtain ⟨hamem, haguid⟩ := (slotOf_eq_some h.pool).1 ha
    have hsame : s.id = a.id ↔ guid = x.guid := by
      constructor
      · intro hid
        rw [h.pool.eq_of_id hsmem hamem hid, haguid] at hsguid
        exact (Option.some.inj hsguid).symm
      · rintro rfl
        rw [h.pool.guids s hsmem a hamem x.guid hsguid haguid]
    have hkey : Store.destinationKey s.id e = x.within a.id ↔
        (⟨guid, e.portRange, e.protocol⟩ : Target) = x := by
      rw [show Store.destinationKey s.id e =
        (⟨guid, e.portRange, e.protocol⟩ : Target).within s.id from rfl, within_inj, hsame,
        Target.ext_iff]
    simp only [Option.bind_some, Option.map_or, hkey]
    split <;> simp

theorem portOf_enter (h : t.Sound size) {p : Policy} (he : t.enter p = some t') :
    t'.portOf x = (t.portOf x).or
      (if p.key.target = x then some p.destination.legacyPort else none) := by
  obtain ⟨source, t₁, group, t₂, hsource, hgroup, rfl⟩ := enter_cases he
  have hs := typeOrDefault_isEmpty p.source.type
  have hg := typeOrDefault_isEmpty p.destination.type
  have h₁ := h.claim hs hsource
  obtain ⟨slot, hslot, rfl⟩ := slotOf_claim h₁.toCoherent hgroup hg
  rw [portOf_point (h₁.claim hg hgroup).toCoherent hslot, portOf_claim h₁.toCoherent hg hgroup,
    portOf_claim h.toCoherent hs hsource]
  rfl

theorem portOf_enterAll (h : t.Sound size) {batch : List Policy}
    (he : t.enterAll batch = some t') :
    t'.portOf x = (t.portOf x).or (Policy.firstPort batch x) :=
  enterAll_first (f := (portOf · x)) (fun _ _ _ h he => portOf_enter h he) h he

theorem portOf_of_mem (h : t.Coherent size) {e : Entry} (he : e ∈ t.entries) :
    t.portOf e.key.target = some e.destination.port.toNat.toUInt16 := by
  obtain ⟨hj, hp⟩ := (mem_entries h).1 he
  have htells := hj.tells h hp
  have hslot : t.slotOf e.key.target.guid = some e.group :=
    (slotOf_eq_some h.pool).2 ⟨hj.group, htells.group⟩
  have hfound : t.findDestination (e.key.target.within e.group.id) = some e.destination :=
    (findDestination_eq_some h).2 ⟨hj.destination, htells.destination⟩
  rw [portOf, hslot, Option.bind_some, hfound, Option.map_some]

theorem portOf_isSome_iff (h : t.Sound size) :
    (t.portOf x).isSome ↔ ∃ k ∈ t.keys, k.target = x := by
  constructor
  · intro hsome
    rw [portOf, Option.isSome_bind, Option.any_eq_true] at hsome
    obtain ⟨s, hs, hfound⟩ := hsome
    rw [Option.isSome_map] at hfound
    obtain ⟨d, hd⟩ := Option.isSome_iff_exists.1 hfound
    obtain ⟨hsmem, hsguid⟩ := (slotOf_eq_some h.pool).1 hs
    obtain ⟨hdmem, hdkey⟩ := (findDestination_eq_some h.toCoherent).1 hd
    obtain ⟨p, hp, hpd⟩ := h.pointed d hdmem
    obtain ⟨e, he⟩ := entry_exists h.toCoherent hp
    obtain ⟨hj, rfl⟩ := (entry_eq_some h.toCoherent).1 he
    have hdest : e.destination = d := h.eq_of_id hj.destination hdmem hpd
    have htells := hj.tells h.toCoherent hp
    have hgroup : e.group = s := h.pool.eq_of_id hj.group hsmem (by
      rw [hj.owner, hdest]
      exact congrArg DestinationKey.group hdkey)
    refine ⟨e.key, List.mem_map.2 ⟨e, (mem_entries h.toCoherent).2 ⟨hj, hp⟩, rfl⟩, ?_⟩
    have hwithin : e.key.target.within s.id = x.within s.id := by
      rw [← hdkey, ← hdest, htells.destination, hgroup]
      rfl
    obtain ⟨-, hports, hprotocol⟩ := within_inj.1 hwithin
    have hguid : some e.key.destination = some x.guid := by rw [← htells.group, hgroup, hsguid]
    exact Target.ext (Option.some.inj hguid) hports hprotocol
  · rintro ⟨k, hk, rfl⟩
    obtain ⟨e, he, rfl⟩ := List.mem_map.1 hk
    rw [portOf_of_mem h.toCoherent he]
    rfl

end Ports

/-- What a batch does to tables it does to their directory. -/
theorem directory_enterAll (h : t.Sound size) {batch : List Policy}
    (he : t.enterAll batch = some t') : t'.directory = t.directory.create batch := by
  apply Directory.ext
  · ext k
    simp only [directory, Directory.create, Finset.mem_union, List.mem_toFinset]
    exact mem_keys_enterAll h he
  · funext g
    exact typeOf_enterAll h he
  · funext g
    exact recorded_enterAll h he
  · funext x
    exact portOf_enterAll h he

theorem directory_claim (h : t.Coherent size) (ht : type.isEmpty = false)
    (hc : t.claim guid type = some (id, t')) :
    t'.directory = { t.directory with types := t'.typeOf } := by
  apply Directory.ext
  · exact congrArg List.toFinset (keys_claim h hc)
  · rfl
  · funext g
    exact recorded_claim h ht hc
  · funext x
    exact portOf_claim h ht hc

section Strike
variable (h : t.Sound size) (keys : List Policy.Key)

theorem ReducesTo.mem_slots (hr : t.ReducesTo t') (hs : s ∈ t'.slots) (hheld : s.guid.isSome) :
    s ∈ t.slots ∧ (t.Needs s.id → t'.Needs s.id) := by
  rw [hr.slots, List.mem_map] at hs
  obtain ⟨a, ha, rfl⟩ := hs
  by_cases hgone : t.Needs a.id ∧ ¬ t'.Needs a.id
  · rw [leave, if_pos hgone] at hheld
    cases hheld
  · rw [leave, if_neg hgone]
    exact ⟨ha, fun hn => by_contra fun hn' => hgone ⟨hn, hn'⟩⟩

include h

theorem leaves_iff_loses : Policy.Key.Leaves t.keys (t.strikeAll keys).keys g ↔
    t.directory.Loses keys.toFinset (g ∈ ·.ids) := by
  rw [keys_strikeAll h]
  simp only [Policy.Key.Leaves, Directory.Loses, directory, List.mem_toFinset, List.mem_filter,
    decide_eq_true_eq]
  constructor
  · rintro ⟨⟨k, hk, -, hg⟩, hleft⟩
    exact ⟨⟨k, hk, hg⟩, fun k' hk' hg' => by_contra fun hnot => hleft k' ⟨hk', hnot⟩ hg'⟩
  · rintro ⟨⟨k, hk, hg⟩, hall⟩
    exact ⟨⟨k, hk, fun hkept => hkept.2 (hall k hk hg), hg⟩,
      fun k' hkept hg' => hkept.2 (hall k' hkept.1 hg')⟩

theorem slotOf_strikeAll : (t.strikeAll keys).slotOf g =
    if t.directory.Loses keys.toFinset (g ∈ ·.ids) then none else t.slotOf g := by
  have hholders := mem_holders_strikeAll (g := g) h keys
  rw [leaves_iff_loses h, mem_holders, mem_holders] at hholders
  split
  · next hloses => exact slotOf_eq_none.2 fun hg => (hholders.1 hg).2 hloses
  · next hkept =>
    cases hs : (t.strikeAll keys).slotOf g with
    | none =>
      refine (slotOf_eq_none.2 fun hg => ?_).symm
      exact slotOf_eq_none.1 hs (hholders.2 ⟨hg, hkept⟩)
    | some s =>
      obtain ⟨hmem, hg⟩ := (slotOf_eq_some (h.strikeAll keys).pool).1 hs
      obtain ⟨hmem, -⟩ := (h.reducesTo_strikeAll keys).mem_slots hmem (by rw [hg]; rfl)
      exact ((slotOf_eq_some h.pool).2 ⟨hmem, hg⟩).symm

theorem typeOf_strikeAll : (t.strikeAll keys).typeOf g =
    if t.directory.Loses keys.toFinset (g ∈ ·.ids) then none else t.typeOf g := by
  rw [typeOf, slotOf_strikeAll h, typeOf]
  split <;> rfl

theorem recorded_strikeAll : (t.strikeAll keys).recorded g =
    if t.directory.Loses keys.toFinset (g ∈ ·.ids) then none else t.recorded g := by
  have hslot := slotOf_strikeAll (g := g) h keys
  split at hslot
  · next hloses => rw [if_pos hloses, recorded_of_slotOf_eq_none hslot]
  · next hkept =>
    rw [if_neg hkept]
    cases hs : t.slotOf g with
    | none => rw [recorded_of_slotOf_eq_none hs, recorded_of_slotOf_eq_none (hslot.trans hs)]
    | some s =>
      have hreduces := h.reducesTo_strikeAll keys
      obtain ⟨hmem, hg⟩ := (slotOf_eq_some (h.strikeAll keys).pool).1 (hslot.trans hs)
      obtain ⟨-, hneeds⟩ := hreduces.mem_slots hmem (by rw [hg]; rfl)
      -- where there is a range its group is needed, and so it is still
      have hrange : (t.strikeAll keys).rangeOf s.id = t.rangeOf s.id := by
        rw [rangeOf, hreduces.ranges]
        refine find?_filter_of_imp fun r hr hgroup => ?_
        have hid : r.group = s.id := by simpa using hgroup
        exact decide_eq_true (hid ▸ hneeds (hid ▸ h.used r hr))
      rw [recorded_of_slotOf hs, recorded_of_slotOf (hslot.trans hs), hrange]

theorem portOf_strikeAll : (t.strikeAll keys).portOf x =
    if t.directory.Loses keys.toFinset (·.target = x) then none else t.portOf x := by
  have h' := h.strikeAll keys
  have hsome' := portOf_isSome_iff (x := x) h'
  have hsome := portOf_isSome_iff (x := x) h
  rw [keys_strikeAll h] at hsome'
  simp only [List.mem_filter, decide_eq_true_eq] at hsome'
  split
  · next hloses =>
    refine Option.not_isSome_iff_eq_none.1 fun hport => ?_
    obtain ⟨k, ⟨hk, hkept⟩, hx⟩ := hsome'.1 hport
    exact hkept (List.mem_toFinset.1 (hloses.2 k (List.mem_toFinset.2 hk) hx))
  · next hkept =>
    by_cases hport : (t.portOf x).isSome
    · obtain ⟨k, hk, hx⟩ := hsome.1 hport
      -- some policy to the target stays, so its destination is there and its slot is held
      have hport' : ((t.strikeAll keys).portOf x).isSome := by
        refine hsome'.2 (by_contra fun hnone => hkept ⟨⟨k, List.mem_toFinset.2 hk, hx⟩, ?_⟩)
        intro k' hk' hx'
        rw [List.mem_toFinset]
        exact by_contra fun hnot => hnone ⟨k', ⟨List.mem_toFinset.1 hk', hnot⟩, hx'⟩
      obtain ⟨port, hport'⟩ := Option.isSome_iff_exists.1 hport'
      rw [hport']
      obtain ⟨s, hs, hfound⟩ := Option.bind_eq_some_iff.1 hport'
      obtain ⟨d, hd, hdport⟩ := Option.map_eq_some_iff.1 hfound
      rw [slotOf_strikeAll h] at hs
      split at hs
      · cases hs
      · obtain ⟨hdmem, hdkey⟩ := (findDestination_eq_some h'.toCoherent).1 hd
        rw [(h.reducesTo_strikeAll keys).destinations] at hdmem
        have hd₀ : t.findDestination (x.within s.id) = some d :=
          (findDestination_eq_some h.toCoherent).2 ⟨List.mem_of_mem_filter hdmem, hdkey⟩
        simp [portOf, hs, hd₀, hdport]
    · have hport' : ¬ ((t.strikeAll keys).portOf x).isSome := by
        intro hsome₁
        obtain ⟨k, ⟨hk, -⟩, hx⟩ := hsome'.1 hsome₁
        exact hport (hsome.2 ⟨k, hk, hx⟩)
      rw [Option.not_isSome_iff_eq_none.1 hport, Option.not_isSome_iff_eq_none.1 hport']

/-- What striking out does to tables it does to their directory. -/
theorem directory_strikeAll :
    (t.strikeAll keys).directory = t.directory.delete keys.toFinset := by
  apply Directory.ext
  · ext k
    simp [directory, Directory.delete, keys_strikeAll h]
  · funext g
    exact typeOf_strikeAll h keys
  · funext g
    exact recorded_strikeAll h keys
  · funext x
    exact portOf_strikeAll h keys

end Strike

end Tables

end NetworkPolicy
