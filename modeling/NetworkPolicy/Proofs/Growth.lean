import NetworkPolicy.Proofs.Entering
import NetworkPolicy.Proofs.Reduction

namespace NetworkPolicy

def Entry.withRange (e : Entry) (r : Option RangeRow) : Entry :=
  { e with range := r }

/-- The range that a batch brings for a guid: that of the first policy to it that has one. -/
def Policy.firstRange (batch : List Policy) (guid : String) : Option AddressRange :=
  batch.findSome? fun p =>
    if p.destination.id = guid then p.destination.ranges.head? else none

namespace Tables

/-- The range that is recorded for the guid, if it holds a slot. -/
def recorded (t : Tables) (guid : String) : Option AddressRange :=
  (t.slotOf guid).bind fun s => (t.rangeOf s.id).map fun r => ⟨r.first, r.last⟩

/-- Rows of the first tables are rows of the second, in front of new ones. -/
structure GrowsTo (t t' : Tables) : Prop where
  slots : ∃ f : Slot → Slot, t'.slots = t.slots.map f ∧ (∀ s, (f s).id = s.id) ∧
    ∀ s ∈ t.slots, s.guid.isSome → f s = s
  policies : t.policies <+: t'.policies
  destinations : ∃ more, t'.destinations = t.destinations ++ more ∧
    ∀ d ∈ more, t.lastDestination < d.id
  lastDestination : t.lastDestination ≤ t'.lastDestination
  ranges : t.ranges <+: t'.ranges

variable {size : Nat} {t t' t'' : Tables} {e : Entry} {id source group : Int} {guid type g : String}

namespace GrowsTo

theorem refl (t : Tables) : t.GrowsTo t where
  slots := ⟨fun s => s, by simp, fun _ => rfl, fun _ _ _ => rfl⟩
  policies := List.prefix_rfl
  destinations := ⟨[], by simp, by simp⟩
  lastDestination := Int.le_refl _
  ranges := List.prefix_rfl

theorem trans (h : t.GrowsTo t') (h' : t'.GrowsTo t'') : t.GrowsTo t'' where
  slots := by
    obtain ⟨f, hf, hid, hheld⟩ := h.slots
    obtain ⟨f', hf', hid', hheld'⟩ := h'.slots
    refine ⟨f' ∘ f, by rw [hf', hf, List.map_map], fun s => (hid' _).trans (hid s), ?_⟩
    intro s hs hsome
    have hkept : f s = s := hheld s hs hsome
    have hmem : s ∈ t'.slots := by
      rw [hf]
      exact List.mem_map.2 ⟨s, hs, hkept⟩
    rw [Function.comp_apply, hkept]
    exact hheld' s hmem hsome
  policies := h.policies.trans h'.policies
  destinations := by
    obtain ⟨more, hmore, hnew⟩ := h.destinations
    obtain ⟨more', hmore', hnew'⟩ := h'.destinations
    refine ⟨more ++ more', by rw [hmore', hmore, List.append_assoc], fun d hd => ?_⟩
    rcases List.mem_append.1 hd with hd | hd
    · exact hnew d hd
    · exact Int.lt_of_le_of_lt h.lastDestination (hnew' d hd)
  lastDestination := Int.le_trans h.lastDestination h'.lastDestination
  ranges := h.ranges.trans h'.ranges

theorem mem_slots (h : t.GrowsTo t') {s : Slot} (hs : s ∈ t.slots) (hheld : s.guid.isSome) :
    s ∈ t'.slots := by
  obtain ⟨f, hf, -, hsame⟩ := h.slots
  rw [hf]
  exact List.mem_map.2 ⟨s, hs, hsame s hs hheld⟩

theorem filter_held (h : t.GrowsTo t') (hpool : Pool size t.slots) {keep : Slot → Bool}
    (hnew : ∀ s ∈ t'.held, keep s = true → s ∈ t.slots) :
    t'.held.filter keep = t.held.filter keep := by
  obtain ⟨f, hf, hid, hsame⟩ := h.slots
  have hkept : ∀ s ∈ t.slots, (keep (f s) && (f s).guid.isSome) = (keep s && s.guid.isSome) := by
    intro s hs
    by_cases hheld : s.guid.isSome = true
    · rw [hsame s hs hheld]
    · -- a slot that was free and would be kept is one of the first, so it is free still
      have hout : ¬ (keep (f s) && (f s).guid.isSome) = true := by
        intro hboth
        obtain ⟨hkeep, hholds⟩ := Bool.and_eq_true_iff.1 hboth
        have hmem : f s ∈ t'.held :=
          List.mem_filter.2 ⟨hf ▸ List.mem_map.2 ⟨s, hs, rfl⟩, hholds⟩
        rw [hpool.eq_of_id (hnew _ hmem hkeep) hs (hid s)] at hholds
        exact hheld hholds
      rw [Bool.eq_false_iff.2 hout, Bool.eq_false_iff.2 hheld, Bool.and_false]
  have hstay : ∀ s ∈ t.slots.filter fun s => keep s && s.guid.isSome, f s = s := by
    intro s hs
    obtain ⟨hmem, hboth⟩ := List.mem_filter.1 hs
    exact hsame s hmem (Bool.and_eq_true_iff.1 hboth).2
  calc t'.held.filter keep = (t.slots.map f).filter fun s => keep s && s.guid.isSome := by
        rw [Tables.held, hf, List.filter_filter]
    _ = (t.slots.filter fun s => keep s && s.guid.isSome).map f := by
        rw [List.filter_map]
        exact congrArg (List.map f) (List.filter_congr hkept)
    _ = t.slots.filter fun s => keep s && s.guid.isSome := by
        rw [List.map_congr_left hstay, List.map_id'']
        exact fun _ => rfl
    _ = t.held.filter keep := by
        rw [Tables.held, List.filter_filter]

end GrowsTo

section Changes

theorem growsTo_fillSlot (h : Pool size t.slots) {s : Slot} (hs : t.freeSlot = some s)
    (guid type : Option String) : t.GrowsTo (t.fillSlot s.id guid type) := by
  obtain ⟨hmem, hfree⟩ := freeSlot_eq_some hs
  refine { GrowsTo.refl t with
    slots := ⟨fun r => if r.id = s.id then ⟨s.id, guid, type⟩ else r,
      replaceSlot_eq_map h.nodup_numbers, fun r => ?_, fun r hr hheld => ?_⟩ }
  · show (if r.id = s.id then (⟨s.id, guid, type⟩ : Slot) else r).id = r.id
    split
    · next hid => exact hid.symm
    · rfl
  · -- the slot that is filled was free, so none that is held has its number
    refine if_neg fun hid => ?_
    rw [h.eq_of_id hr hmem hid, hfree] at hheld
    cases hheld

theorem growsTo_claim (h : t.Coherent size) (hc : t.claim guid type = some (id, t')) :
    t.GrowsTo t' := by
  obtain ⟨_, -, -, rfl⟩ | ⟨s, -, hs, -, rfl⟩ := claim_cases hc
  · exact .refl _
  · exact growsTo_fillSlot h.pool hs _ _

theorem growsTo_putDestination (t : Tables) (key : DestinationKey) (port : Int) :
    t.GrowsTo (t.putDestination key port) := by
  have hnext : t.lastDestination < t.lastDestination + 1 := Int.lt_add_one_of_le (Int.le_refl _)
  unfold putDestination
  split
  · exact { GrowsTo.refl t with lastDestination := Int.le_of_lt hnext }
  · exact { GrowsTo.refl t with
      destinations := ⟨_, rfl, fun d hd => List.mem_singleton.1 hd ▸ hnext⟩
      lastDestination := Int.le_of_lt hnext }

theorem growsTo_putRange (t : Tables) (group : Int) (ranges : List AddressRange) :
    t.GrowsTo (t.putRange group ranges) := by
  cases ranges with
  | nil => exact .refl t
  | cons r _ =>
    rw [putRange]
    split
    · exact .refl t
    · exact { GrowsTo.refl t with ranges := List.prefix_append _ _ }

theorem growsTo_putPolicy (t : Tables) (p : PolicyRow) : t.GrowsTo (t.putPolicy p) := by
  unfold putPolicy
  split
  · exact .refl t
  · exact { GrowsTo.refl t with policies := List.prefix_append _ _ }

theorem growsTo_point (t : Tables) (source group : Int) (e : Destination) :
    t.GrowsTo (t.point source group e) := by
  obtain ⟨d, -, hpoint⟩ := point_eq t source group e
  rw [hpoint]
  exact ((growsTo_putDestination t _ _).trans (growsTo_putRange _ _ _)).trans
    (growsTo_putPolicy _ _)

end Changes

theorem growsTo_enter (h : t.Sound size) {p : Policy} (he : t.enter p = some t') :
    t.GrowsTo t' := by
  obtain ⟨source, t₁, group, t₂, hsource, hgroup, rfl⟩ := enter_cases he
  have h₁ := h.claim (typeOrDefault_isEmpty _) hsource
  exact ((growsTo_claim h.toCoherent hsource).trans (growsTo_claim h₁.toCoherent hgroup)).trans
    (growsTo_point _ _ _ _)

/-- By induction on the batch: a batch only adds to the tables. -/
theorem growsTo_enterAll (h : t.Sound size) {batch : List Policy}
    (he : t.enterAll batch = some t') : t.GrowsTo t' := by
  induction batch generalizing t with
  | nil =>
    cases he
    exact .refl _
  | cons p rest ih =>
    rw [Tables.enterAll, List.foldlM_cons] at he
    obtain ⟨t₁, he₁, hrest⟩ := Option.bind_eq_some_iff.1 he
    exact (growsTo_enter h he₁).trans (ih (h.enter he₁) hrest)

section Entries

/-- Of the entry of a policy only the range may change. -/
theorem GrowsTo.entry_eq (h : t.Coherent size) (h' : t'.Coherent size) (hgrows : t.GrowsTo t')
    {r : PolicyRow} (hr : r ∈ t.policies) :
    t'.entry? r = (t.entry? r).map fun e => e.withRange (t'.rangeOf e.group.id) := by
  obtain ⟨e, he⟩ := entry_exists h hr
  obtain ⟨hj, rfl⟩ := (entry_eq_some h).1 he
  have htells := hj.tells h hr
  have hsource := hgrows.mem_slots hj.source (by rw [htells.source]; rfl)
  have hgroup := hgrows.mem_slots hj.group (by rw [htells.group]; rfl)
  obtain ⟨more, hmore, -⟩ := hgrows.destinations
  have hdestination : e.destination ∈ t'.destinations :=
    hmore ▸ List.mem_append_left more hj.destination
  rw [he]
  exact (entry_eq_some h').2 ⟨⟨hsource, hdestination, hgroup, hj.owner, rfl⟩, rfl⟩

theorem GrowsTo.entries_eq (h : t.Coherent size) (h' : t'.Coherent size) (hgrows : t.GrowsTo t') :
    ∃ more, t'.entries =
      (t.entries.map fun e => e.withRange (t'.rangeOf e.group.id)) ++ more := by
  obtain ⟨new, hnew⟩ := hgrows.policies
  refine ⟨new.filterMap t'.entry?, ?_⟩
  rw [entries, ← hnew, List.filterMap_append, entries, List.map_filterMap]
  exact congrArg (· ++ _) (List.filterMap_congr fun r hr => hgrows.entry_eq h h' hr)

theorem mem_foldl_noted {keys more : List Policy.Key} {k : Policy.Key} :
    k ∈ more.foldl Policy.Key.noted keys ↔ k ∈ keys ∨ k ∈ more := by
  induction more generalizing keys with
  | nil => simp
  | cons a rest ih =>
    rw [List.foldl_cons, ih, List.mem_cons, ← or_assoc]
    apply or_congr_left
    unfold Policy.Key.noted
    split
    · next ha => exact ⟨.inl, fun hk => hk.elim (fun hk => hk) fun hka => hka ▸ ha⟩
    · rw [List.mem_append, List.mem_singleton]

theorem mem_keys_enterAll (h : t.Sound size) {batch : List Policy}
    (he : t.enterAll batch = some t') {k : Policy.Key} :
    k ∈ t'.keys ↔ k ∈ t.keys ∨ k ∈ batch.map Policy.key := by
  obtain ⟨-, hkeys, -⟩ := h.enterAll he
  rw [hkeys, mem_foldl_noted]

theorem entries_enterAll (h : t.Sound size) {batch : List Policy}
    (he : t.enterAll batch = some t') :
    ∃ more, t'.entries = (t.entries.map fun e => e.withRange (t'.rangeOf e.group.id)) ++ more ∧
      ∀ e ∈ more, e.key ∈ batch.map Policy.key := by
  obtain ⟨h', -, -⟩ := h.enterAll he
  obtain ⟨more, hmore⟩ := (growsTo_enterAll h he).entries_eq h.toCoherent h'.toCoherent
  refine ⟨more, hmore, fun e hem => ?_⟩
  have hkeys : t'.keys = t.keys ++ more.map Entry.key := by
    rw [keys, hmore, List.map_append, List.map_map]
    rfl
  have hkey : e.key ∈ more.map Entry.key := List.mem_map.2 ⟨e, hem, rfl⟩
  -- no key stands twice, so that of a new entry is not an old one
  have hnew : e.key ∉ t.keys := fun hold =>
    List.disjoint_of_nodup_append (hkeys ▸ nodup_keys h'.toCoherent) hold hkey
  have hmem : e.key ∈ t'.keys := hkeys ▸ List.mem_append_right _ hkey
  exact ((mem_keys_enterAll h he).1 hmem).resolve_left hnew

end Entries

section Recorded

theorem recorded_of_slotOf {s : Slot} (hs : t.slotOf guid = some s) :
    t.recorded guid = (t.rangeOf s.id).map fun r => ⟨r.first, r.last⟩ := by
  rw [recorded, hs]
  rfl

theorem recorded_of_slotOf_eq_none (hs : t.slotOf guid = none) : t.recorded guid = none := by
  rw [recorded, hs]
  rfl

theorem rangeOf_of_free (h : t.Coherent size) {s : Slot} (hs : s ∈ t.slots) (hfree : s.guid = none) :
    t.rangeOf s.id = none := by
  refine rangeOf_eq_none.2 fun r hr hid => ?_
  obtain ⟨a, ha, haid, hheld⟩ := h.rangeOwners r hr
  rw [h.pool.eq_of_id ha hs (haid.trans hid), hfree] at hheld
  cases hheld

theorem GrowsTo.free_of_new (hgrows : t.GrowsTo t') {s : Slot}
    (hs : t'.slotOf g = some s) (hnew : t.slotOf g = none) :
    ∃ r ∈ t.slots, r.id = s.id ∧ r.guid = none := by
  obtain ⟨f, hf, hid, hheld⟩ := hgrows.slots
  have hmem : s ∈ t.slots.map f := hf ▸ List.mem_of_find?_eq_some hs
  obtain ⟨r, hr, rfl⟩ := List.mem_map.1 hmem
  refine ⟨r, hr, (hid r).symm, Option.not_isSome_iff_eq_none.1 fun hsome => ?_⟩
  have hg : (f r).guid = some g := by simpa using List.find?_some hs
  rw [hheld r hr hsome] at hg
  exact slotOf_eq_none.1 hnew (mem_guids.2 ⟨r, hr, hg⟩)

theorem GrowsTo.rangeOf_of_some (hgrows : t.GrowsTo t') {r : RangeRow}
    (hr : t.rangeOf id = some r) : t'.rangeOf id = some r := by
  obtain ⟨more, hmore⟩ := hgrows.ranges
  rw [rangeOf] at hr
  rw [rangeOf, ← hmore, List.find?_append, hr, Option.some_or]

theorem rangeOf_of_new (h' : t'.Coherent size) {new : List RangeRow}
    (hranges : t.ranges ++ new = t'.ranges) {r : RangeRow} (hr : r ∈ new) :
    t.rangeOf r.group = none := by
  have hgroups := h'.ranges
  rw [← hranges, List.map_append] at hgroups
  refine rangeOf_eq_none.2 fun a ha hsame => ?_
  exact List.disjoint_of_nodup_append hgroups (List.mem_map.2 ⟨a, ha, hsame⟩)
    (List.mem_map.2 ⟨r, hr, rfl⟩)

theorem recorded_claim (h : t.Coherent size) (ht : type.isEmpty = false)
    (hc : t.claim guid type = some (id, t')) : t'.recorded g = t.recorded g := by
  have hranges : t'.ranges = t.ranges := by
    obtain ⟨_, -, -, rfl⟩ | ⟨_, -, -, -, rfl⟩ := claim_cases hc <;> rfl
  have hrangeOf : ∀ id, t'.rangeOf id = t.rangeOf id := fun id => by rw [rangeOf, hranges, rangeOf]
  cases hs : t.slotOf g with
  | some s =>
    rw [recorded_of_slotOf hs, recorded_of_slotOf (slotOf_claim_of_some h hc ht hs), hrangeOf]
  | none =>
    -- the guid may have come to hold a slot, but that was free and has no range
    rw [recorded_of_slotOf_eq_none hs]
    cases hs' : t'.slotOf g with
    | none => exact recorded_of_slotOf_eq_none hs'
    | some s' =>
      obtain ⟨r, hr, hid, hfree⟩ := (growsTo_claim h hc).free_of_new hs' hs
      rw [recorded_of_slotOf hs', hrangeOf, ← hid, rangeOf_of_free h hr hfree]
      rfl

theorem rangeOf_putRange (t : Tables) (group : Int) (ranges : List AddressRange) :
    (t.putRange group ranges).rangeOf id =
      if id = group then
        (t.rangeOf id).or (ranges.head?.map fun r => ⟨group, r.first, r.last⟩)
      else t.rangeOf id := by
  cases ranges with
  | nil => simp [putRange]
  | cons r _ =>
    rw [putRange]
    by_cases hsome : (t.rangeOf group).isSome = true
    · rw [if_pos hsome]
      split
      · next hid =>
        obtain ⟨a, ha⟩ := Option.isSome_iff_exists.1 hsome
        rw [hid, ha, Option.some_or]
      · rfl
    · rw [if_neg hsome]
      simp only [rangeOf, List.find?_append, List.head?_cons, Option.map_some]
      split
      · next hid => simp [hid]
      · next hid => simp [Ne.symm hid]

theorem rangeOf_point (t : Tables) (source group : Int) (e : Destination) :
    (t.point source group e).rangeOf id =
      if id = group then
        (t.rangeOf id).or (e.ranges.head?.map fun r => ⟨group, r.first, r.last⟩)
      else t.rangeOf id := by
  obtain ⟨d, -, hpoint⟩ := point_eq t source group e
  have hput : ∀ id, (t.putDestination (Store.destinationKey group e) e.legacyPort.toNat).rangeOf id =
      t.rangeOf id := fun id => by rw [rangeOf, putDestination_ranges, rangeOf]
  rw [hpoint, rangeOf, putPolicy_ranges, ← rangeOf, put, rangeOf_putRange, hput]

theorem recorded_point (h : t.Coherent size) {s : Slot} (hs : t.slotOf guid = some s) (source : Int)
    (e : Destination) : (t.point source s.id e).recorded g =
      (t.recorded g).or (if guid = g then e.ranges.head? else none) := by
  have hslots : (t.point source s.id e).slotOf g = t.slotOf g := by
    rw [slotOf, point_slots, ← slotOf]
  cases hg : t.slotOf g with
  | none =>
    have hne : guid ≠ g := by
      rintro rfl
      rw [hs] at hg
      cases hg
    rw [recorded_of_slotOf_eq_none hg, recorded_of_slotOf_eq_none (hslots.trans hg), if_neg hne]
    rfl
  | some a =>
    rw [recorded_of_slotOf hg, recorded_of_slotOf (hslots.trans hg), rangeOf_point]
    obtain ⟨hsmem, hsguid⟩ := (slotOf_eq_some h.pool).1 hs
    obtain ⟨hamem, haguid⟩ := (slotOf_eq_some h.pool).1 hg
    by_cases he : guid = g
    · have hsame : a = s := h.pool.guids a hamem s hsmem g haguid (he ▸ hsguid)
      rw [if_pos he, if_pos (congrArg Slot.id hsame), Option.map_or, Option.map_map]
      congr 1
      cases e.ranges.head? <;> rfl
    · have hne : a.id ≠ s.id := by
        intro hid
        rw [h.pool.eq_of_id hamem hsmem hid, hsguid] at haguid
        exact he (Option.some.inj haguid)
      rw [if_neg he, if_neg hne, Option.or_none]

theorem recorded_enter (h : t.Sound size) {p : Policy} (he : t.enter p = some t') :
    t'.recorded g =
      (t.recorded g).or (if p.destination.id = g then p.destination.ranges.head? else none) := by
  obtain ⟨source, t₁, group, t₂, hsource, hgroup, rfl⟩ := enter_cases he
  have hs := typeOrDefault_isEmpty p.source.type
  have hg := typeOrDefault_isEmpty p.destination.type
  have h₁ := h.claim hs hsource
  obtain ⟨slot, hslot, rfl⟩ := slotOf_claim h₁.toCoherent hgroup hg
  rw [recorded_point (h₁.claim hg hgroup).toCoherent hslot, recorded_claim h₁.toCoherent hg hgroup,
    recorded_claim h.toCoherent hs hsource]

/-- By induction on the batch: where each policy adds what it brings to what there is not yet, the
first policy of a batch that brings something has its way. -/
theorem enterAll_first {α : Type} {f : Tables → Option α} {bring : Policy → Option α}
    (hstep : ∀ t t' p, t.Sound size → t.enter p = some t' → f t' = (f t).or (bring p))
    (h : t.Sound size) {batch : List Policy} (he : t.enterAll batch = some t') :
    f t' = (f t).or (batch.findSome? bring) := by
  induction batch generalizing t with
  | nil =>
    cases he
    exact Option.or_none.symm
  | cons p rest ih =>
    rw [enterAll, List.foldlM_cons] at he
    obtain ⟨t₁, he₁, hrest⟩ := Option.bind_eq_some_iff.1 he
    rw [ih (h.enter he₁) hrest, hstep t t₁ p h he₁, Option.or_assoc, List.findSome?_cons]
    cases bring p <;> rfl

theorem recorded_enterAll (h : t.Sound size) {batch : List Policy}
    (he : t.enterAll batch = some t') :
    t'.recorded g = (t.recorded g).or (Policy.firstRange batch g) :=
  enterAll_first (f := (recorded · g)) (fun _ _ _ h he => recorded_enter h he) h he

end Recorded

end Tables

end NetworkPolicy
