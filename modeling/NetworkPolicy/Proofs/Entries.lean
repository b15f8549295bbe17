import Mathlib.Data.List.Forall2
import NetworkPolicy.Proofs.Coherence
import NetworkPolicy.Store.Listing

namespace NetworkPolicy

theorem find?_filter_of_imp {α : Type} {p q : α → Bool} {l : List α}
    (h : ∀ a ∈ l, q a = true → p a = true) : (l.filter p).find? q = l.find? q := by
  induction l with
  | nil => rfl
  | cons a rest ih =>
    have hrest := ih fun b hb => h b (List.mem_cons_of_mem a hb)
    by_cases hp : p a = true
    · rw [List.filter_cons_of_pos hp, List.find?_cons, List.find?_cons, hrest]
    · have hq : q a ≠ true := fun hq => hp (h a List.mem_cons_self hq)
      rw [List.filter_cons_of_neg hp, List.find?_cons_of_neg hq, hrest]

/-- What tells the destination of a policy with the key apart, when its group has the slot. -/
def Policy.Key.within (k : Policy.Key) (group : Int) : DestinationKey :=
  ⟨group, k.ports.first.toNat, k.ports.last.toNat, k.protocol⟩

namespace Entry

def key (e : Entry) : Policy.Key where
  source := e.source.guid.getD ""
  destination := e.group.guid.getD ""
  ports := ⟨e.destination.first.toNat.toUInt16, e.destination.last.toNat.toUInt16⟩
  protocol := e.destination.protocol

def row (e : Entry) : PolicyRow :=
  ⟨e.source.id, e.destination.id⟩

end Entry

namespace Tables

/-- The keys of the policies, in the order in which they came. -/
def keys (t : Tables) : List Policy.Key :=
  t.entries.map Entry.key

/-- The entry that a policy with the key would have, from rows that are there. -/
def seek (t : Tables) (k : Policy.Key) : Option Entry := do
  let source ← t.slotOf k.source
  let group ← t.slotOf k.destination
  let destination ← t.findDestination (k.within group.id)
  return ⟨source, destination, group, t.rangeOf group.id⟩

/-- The entry joins rows of the tables. -/
structure Joins (t : Tables) (e : Entry) : Prop where
  source : e.source ∈ t.slots
  destination : e.destination ∈ t.destinations
  group : e.group ∈ t.slots
  owner : e.group.id = e.destination.group
  range : e.range = t.rangeOf e.group.id

/-- The ends of the entry are held by guids, and it has the key. -/
structure Tells (e : Entry) (k : Policy.Key) : Prop where
  source : e.source.guid = some k.source
  group : e.group.guid = some k.destination
  destination : e.destination.toDestinationKey = k.within e.group.id

/-- The row is that of a policy with the key. -/
structure Stores (t : Tables) (r : PolicyRow) (k : Policy.Key) : Prop where
  source : ∃ s ∈ t.slots, s.id = r.source ∧ s.guid = some k.source
  destination : ∃ d ∈ t.destinations, d.id = r.destination ∧
    ∃ s ∈ t.slots, s.guid = some k.destination ∧ d.toDestinationKey = k.within s.id

variable {size : Nat} {t : Tables} {e : Entry} {r : PolicyRow} {k : Policy.Key}

theorem Tells.key_eq (h : Tells e k) : e.key = k := by
  have hfirst : e.destination.first = k.ports.first.toNat :=
    congrArg DestinationKey.first h.destination
  have hlast : e.destination.last = k.ports.last.toNat := congrArg DestinationKey.last h.destination
  have hprotocol : e.destination.protocol = k.protocol :=
    congrArg DestinationKey.protocol h.destination
  simp [Entry.key, h.source, h.group, hfirst, hlast, hprotocol]

theorem entry_eq_some (h : t.Coherent size) : t.entry? r = some e ↔ t.Joins e ∧ e.row = r := by
  constructor
  · intro he
    simp only [Option.bind_eq_bind, Option.bind_eq_some_iff, entry?] at he
    obtain ⟨source, hs, d, hd, group, hg, he⟩ := he
    cases he
    obtain ⟨hsmem, hsid⟩ := (slotAt_eq_some h.pool).1 hs
    obtain ⟨hdmem, hdid⟩ := (destinationAt_eq_some h).1 hd
    obtain ⟨hgmem, hgid⟩ := (slotAt_eq_some h.pool).1 hg
    refine ⟨⟨hsmem, hdmem, hgmem, hgid, rfl⟩, ?_⟩
    rw [Entry.row, hsid, hdid]
  · rintro ⟨hj, rfl⟩
    have hs : t.slotAt e.row.source = some e.source := (slotAt_eq_some h.pool).2 ⟨hj.source, rfl⟩
    have hd : t.destinationAt e.row.destination = some e.destination :=
      (destinationAt_eq_some h).2 ⟨hj.destination, rfl⟩
    have hg : t.slotAt e.destination.group = some e.group :=
      (slotAt_eq_some h.pool).2 ⟨hj.group, hj.owner⟩
    simp only [hs, hd, hg, entry?, Option.bind_eq_bind, Option.bind_some, Option.pure_def,
      ← hj.range]

theorem seek_eq_some (h : t.Coherent size) : t.seek k = some e ↔ t.Joins e ∧ Tells e k := by
  constructor
  · intro he
    simp only [seek, Option.bind_eq_bind, Option.bind_eq_some_iff] at he
    obtain ⟨source, hs, group, hg, d, hd, he⟩ := he
    cases he
    obtain ⟨hsmem, hsguid⟩ := (slotOf_eq_some h.pool).1 hs
    obtain ⟨hgmem, hgguid⟩ := (slotOf_eq_some h.pool).1 hg
    obtain ⟨hdmem, hdkey⟩ := (findDestination_eq_some h).1 hd
    have howner : group.id = d.group := (congrArg DestinationKey.group hdkey).symm
    exact ⟨⟨hsmem, hdmem, hgmem, howner, rfl⟩, hsguid, hgguid, hdkey⟩
  · rintro ⟨hj, hk⟩
    have hs : t.slotOf k.source = some e.source := (slotOf_eq_some h.pool).2 ⟨hj.source, hk.source⟩
    have hg : t.slotOf k.destination = some e.group :=
      (slotOf_eq_some h.pool).2 ⟨hj.group, hk.group⟩
    have hd : t.findDestination (k.within e.group.id) = some e.destination :=
      (findDestination_eq_some h).2 ⟨hj.destination, hk.destination⟩
    simp only [seek, hs, hd, hg, Option.bind_eq_bind, Option.bind_some, Option.pure_def,
      ← hj.range]

/-- The entry of a policy tells its own key. -/
theorem Joins.tells (h : t.Coherent size) (hj : t.Joins e) (hr : e.row ∈ t.policies) :
    Tells e e.key := by
  have hsource : e.source.guid.isSome := by
    obtain ⟨s, hs, hid, hsome⟩ := h.sources _ hr
    rwa [h.pool.eq_of_id hs hj.source hid] at hsome
  have hgroup : e.group.guid.isSome := by
    obtain ⟨s, hs, hid, hsome⟩ := h.owners _ hj.destination
    rwa [h.pool.eq_of_id hs hj.group (hid.trans hj.owner.symm)] at hsome
  obtain ⟨a, ha⟩ := Option.isSome_iff_exists.1 hsource
  obtain ⟨b, hb⟩ := Option.isSome_iff_exists.1 hgroup
  refine ⟨by simp [Entry.key, ha], by simp [Entry.key, hb], ?_⟩
  obtain ⟨d, hd, -⟩ := h.written _ hj.destination
  have hfirst : e.destination.first = d.portRange.first.toNat := congrArg DestinationKey.first hd
  have hlast : e.destination.last = d.portRange.last.toNat := congrArg DestinationKey.last hd
  have hprotocol : e.destination.protocol = d.protocol := congrArg DestinationKey.protocol hd
  -- the ports were written from 16 bits, so nothing is lost when they are read back
  rw [hd, hj.owner]
  simp [Store.destinationKey, Policy.Key.within, Entry.key, hfirst, hlast, hprotocol]

theorem entry_iff_seek (h : t.Coherent size) (hr : r ∈ t.policies) :
    t.entry? r = some e ∧ e.key = k ↔ t.seek k = some e ∧ e.row = r := by
  rw [entry_eq_some h, seek_eq_some h]
  constructor
  · rintro ⟨⟨hj, rfl⟩, rfl⟩
    exact ⟨⟨hj, hj.tells h hr⟩, rfl⟩
  · rintro ⟨⟨hj, hk⟩, hrow⟩
    exact ⟨⟨hj, hrow⟩, hk.key_eq⟩

theorem entry_exists (h : t.Coherent size) (hr : r ∈ t.policies) : ∃ e, t.entry? r = some e := by
  obtain ⟨source, hs, hsid, -⟩ := h.sources r hr
  obtain ⟨d, hd, hdid⟩ := h.targets r hr
  obtain ⟨group, hg, hgid, -⟩ := h.owners d hd
  have hrow : (⟨source.id, d.id⟩ : PolicyRow) = r := by rw [hsid, hdid]
  exact ⟨⟨source, d, group, t.rangeOf group.id⟩,
    (entry_eq_some h).2 ⟨⟨hs, hd, hg, hgid, rfl⟩, hrow⟩⟩

theorem mem_entries (h : t.Coherent size) :
    e ∈ t.entries ↔ t.Joins e ∧ e.row ∈ t.policies := by
  rw [entries, List.mem_filterMap]
  constructor
  · rintro ⟨r, hr, he⟩
    obtain ⟨hj, rfl⟩ := (entry_eq_some h).1 he
    exact ⟨hj, hr⟩
  · rintro ⟨hj, hr⟩
    exact ⟨e.row, hr, (entry_eq_some h).2 ⟨hj, rfl⟩⟩

theorem policies_eq_map_row (h : t.Coherent size) : t.policies = t.entries.map Entry.row := by
  have hrow : ∀ r ∈ t.policies, (t.entry? r).map Entry.row = some r := by
    intro r hr
    obtain ⟨e, he⟩ := entry_exists h hr
    obtain ⟨-, hrow⟩ := (entry_eq_some h).1 he
    rw [he, Option.map_some, hrow]
  rw [entries, List.map_filterMap, List.filterMap_congr hrow, List.filterMap_some]

/-- The rows of the policies stand for the keys, one by one. -/
theorem stores_keys (h : t.Coherent size) : List.Forall₂ t.Stores t.policies t.keys := by
  rw [policies_eq_map_row h, keys, List.forall₂_map_left_iff, List.forall₂_map_right_iff,
    List.forall₂_same]
  intro e he
  obtain ⟨hj, hr⟩ := (mem_entries h).1 he
  have htells := hj.tells h hr
  exact ⟨⟨e.source, hj.source, rfl, htells.source⟩, ⟨e.destination, hj.destination, rfl, e.group,
    hj.group, htells.group, htells.destination⟩⟩

theorem mem_keys (h : t.Coherent size) :
    k ∈ t.keys ↔ ∃ e, t.seek k = some e ∧ e.row ∈ t.policies := by
  rw [keys, List.mem_map]
  constructor
  · rintro ⟨e, he, rfl⟩
    obtain ⟨hj, hr⟩ := (mem_entries h).1 he
    exact ⟨e, (seek_eq_some h).2 ⟨hj, hj.tells h hr⟩, hr⟩
  · rintro ⟨e, he, hr⟩
    obtain ⟨hj, hk⟩ := (seek_eq_some h).1 he
    exact ⟨e, (mem_entries h).2 ⟨hj, hr⟩, hk.key_eq⟩

theorem keys_eq_filterMap (t : Tables) :
    t.keys = t.policies.filterMap fun r => Option.map Entry.key <| t.entry? r :=
  List.map_filterMap

theorem nodup_keys (h : t.Coherent size) : t.keys.Nodup := by
  rw [keys_eq_filterMap]
  refine List.Pairwise.filterMap _
    (R := fun a b => a ∈ t.policies ∧ b ∈ t.policies ∧ a ≠ b) ?_ ?_
  · rintro a b ⟨ha, hb, hab⟩ k hk k' hk' rfl
    obtain ⟨e, he, hek⟩ := Option.map_eq_some_iff.1 hk
    obtain ⟨e', he', hek'⟩ := Option.map_eq_some_iff.1 hk'
    obtain ⟨hseek, hrow⟩ := (entry_iff_seek h ha).1 ⟨he, hek⟩
    obtain ⟨hseek', hrow'⟩ := (entry_iff_seek h hb).1 ⟨he', hek'⟩
    rw [hseek] at hseek'
    cases hseek'
    exact hab (hrow.symm.trans hrow')
  · exact (List.Pairwise.and_mem.1 h.policies).imp fun hab => ⟨hab.1, hab.2.1, hab.2.2⟩

section Frame
variable {t' : Tables} {s : Slot} {group id : Int}

/-- The entry of a policy depends on the rows that it refers to, and on nothing else. -/
theorem entry_congr (hs : t'.slotAt r.source = t.slotAt r.source)
    (hd : t'.destinationAt r.destination = t.destinationAt r.destination)
    (hg : ∀ d ∈ t.destinations, t'.slotAt d.group = t.slotAt d.group)
    (hr : ∀ s ∈ t.slots, ∀ d ∈ t.destinations, s.id = d.group → t'.rangeOf s.id = t.rangeOf s.id) :
    t'.entry? r = t.entry? r := by
  unfold entry?
  rw [hs, hd]
  cases t.slotAt r.source with
  | none => rfl
  | some source =>
    cases hfound : t.destinationAt r.destination with
    | none => rfl
    | some d =>
      have hmem : d ∈ t.destinations := List.mem_of_find?_eq_some hfound
      simp only [Option.bind_eq_bind, Option.bind_some, hg d hmem]
      cases howner : t.slotAt d.group with
      | none => rfl
      | some owner =>
        have howned : owner ∈ t.slots := List.mem_of_find?_eq_some howner
        have hid : owner.id = d.group := by simpa using List.find?_some howner
        rw [Option.bind_some, Option.bind_some, hr owner howned d hmem hid]

theorem entries_congr (hp : t'.policies = t.policies)
    (he : ∀ r ∈ t.policies, t'.entry? r = t.entry? r) : t'.entries = t.entries := by
  rw [entries, entries, hp]
  exact List.filterMap_congr he

theorem not_needs_of_free (h : t.Coherent size) (hs : s ∈ t.slots) (hfree : s.guid = none) :
    ¬ t.Needs s.id := by
  have hnot : ¬ Claimed t.slots s.id := by
    rintro ⟨a, ha, hid, hsome⟩
    rw [h.pool.eq_of_id ha hs hid, hfree] at hsome
    cases hsome
  rintro (⟨p, hp, hps⟩ | ⟨d, hd, hdg⟩)
  · exact hnot (hps ▸ h.sources p hp)
  · exact hnot (hdg ▸ h.owners d hd)

theorem entries_fillSlot {guid type : Option String} (hn : ¬ t.Needs s.id) :
    (t.fillSlot s.id guid type).entries = t.entries := by
  refine entries_congr rfl fun r hr => entry_congr ?_ rfl ?_ fun _ _ _ _ _ => rfl
  · exact slotAt_fillSlot_of_ne fun e => hn (.inl ⟨r, hr, e⟩)
  · intro d hd
    exact slotAt_fillSlot_of_ne fun e => hn (.inr ⟨d, hd, e⟩)

theorem entries_putDestination (h : t.Coherent size) (key : DestinationKey) (port : Int) :
    (t.putDestination key port).entries = t.entries := by
  unfold putDestination
  split
  · rfl
  · refine entries_congr rfl fun r hr => ?_
    obtain ⟨d, hd, hid⟩ := h.targets r hr
    have hfound : t.destinationAt r.destination = some d := (destinationAt_eq_some h).2 ⟨hd, hid⟩
    -- the new destination stands last, so the one that a policy points at is found before it
    simp only [slotAt, destinationAt, rangeOf, entry?, List.find?_append] at hfound ⊢
    rw [hfound]
    rfl

theorem keys_putRange (group : Int) (ranges : List AddressRange) :
    (t.putRange group ranges).keys = t.keys := by
  have hkeys : ∀ l : List RangeRow, ({ t with ranges := l } : Tables).keys = t.keys := by
    intro l
    rw [keys_eq_filterMap, keys_eq_filterMap]
    apply List.filterMap_congr
    intro r _
    simp only [slotAt, destinationAt, entry?, Option.bind_eq_bind]
    cases t.slots.find? (fun s => decide (s.id = r.source)) with
    | none => rfl
    | some source =>
      rw [Option.bind_some, Option.bind_some]
      cases t.destinations.find? (fun d => decide (d.id = r.destination)) with
      | none => rfl
      | some d =>
        rw [Option.bind_some, Option.bind_some]
        cases t.slots.find? (fun s => decide (s.id = d.group)) <;> rfl
  cases ranges with
  | nil => rfl
  | cons a _ =>
    rw [putRange]
    split
    · rfl
    · exact hkeys _

theorem entries_dropUnpointed (id : Int) : (t.dropUnpointed id).entries = t.entries := by
  unfold dropUnpointed
  split
  · next hzero =>
    refine entries_congr rfl fun r hr => ?_
    have hne : r.destination ≠ id := countByDestination_eq_zero.1 hzero r hr
    have hfound : (t.destinations.filter (·.id ≠ id)).find? (·.id = r.destination) =
        t.destinations.find? (·.id = r.destination) := by
      apply find?_filter_of_imp
      intro d _ hd
      have hid : d.id = r.destination := by simpa using hd
      simpa [hid] using hne
    simp only [slotAt, destinationAt, rangeOf, entry?, hfound]
  · rfl

theorem entries_giveUp (group : Int) : (t.giveUp group).entries = t.entries := by
  unfold giveUp
  split
  · next hzero =>
    have hn : ¬ t.Needs group := counts_eq_zero.1 hzero
    refine entries_congr rfl fun r hr => entry_congr ?_ rfl ?_ ?_
    · exact slotAt_fillSlot_of_ne (s := ⟨group, none, none⟩) fun e => hn (.inl ⟨r, hr, e⟩)
    · intro d hd
      exact slotAt_fillSlot_of_ne (s := ⟨group, none, none⟩) fun e => hn (.inr ⟨d, hd, e⟩)
    · intro s _ d hd hid
      have hne : s.id ≠ group := fun e => hn (.inr ⟨d, hd, hid.symm.trans e⟩)
      apply find?_filter_of_imp
      intro a _ ha
      have hgroup : a.group = s.id := by simpa using ha
      simpa [hgroup] using hne
  · rfl

/-- To remove the policy that a key finds is to remove the entry with the key. -/
theorem entries_removePolicy (h : t.Coherent size) (he : t.seek k = some e) :
    (t.removePolicy e.row).2.entries = t.entries.filter (·.key ≠ k) := by
  show (t.policies.filter (· ≠ e.row)).filterMap t.entry? = (t.policies.filterMap t.entry?).filter _
  rw [List.filter_filterMap, List.filterMap_filter]
  apply List.filterMap_congr
  intro r hr
  obtain ⟨e', he'⟩ := entry_exists h hr
  have hiff : r = e.row ↔ e'.key = k := by
    constructor
    · rintro rfl
      have hfound := (entry_iff_seek h hr).2 ⟨he, rfl⟩
      rw [he'] at hfound
      exact Option.some.inj hfound.1 ▸ hfound.2
    · intro hkey
      have hfound := (entry_iff_seek h hr).1 ⟨he', hkey⟩
      rw [he] at hfound
      exact Option.some.inj hfound.1 ▸ hfound.2.symm
  rw [he']
  by_cases hrow : r = e.row
  · have hkey : e'.key = k := hiff.1 hrow
    simp [hrow, hkey, Option.filter]
  · have hkey : e'.key ≠ k := mt hiff.2 hrow
    simp [hrow, hkey, Option.filter]

theorem filter_key_ne_of_not_mem (hk : k ∉ t.keys) : t.entries.filter (·.key ≠ k) = t.entries := by
  apply List.filter_eq_self.2
  intro e he
  simpa using fun e' => hk (List.mem_map.2 ⟨e, he, e'⟩)

end Frame

end Tables

end NetworkPolicy
