import NetworkPolicy.Proofs.Atomicity
import NetworkPolicy.Proofs.Growth
import NetworkPolicy.Proofs.Requests

namespace NetworkPolicy

namespace Tables

/-- The batch names the guid, and no policy did. -/
def Borrows (t : Tables) (batch : List Policy) (guid : String) : Prop :=
  guid ∈ Policy.allIds batch ∧ ¬ t.Names guid

instance (t : Tables) (batch : List Policy) (guid : String) : Decidable (t.Borrows batch guid) :=
  inferInstanceAs (Decidable (_ ∧ _))

/-- A policy names the guid, no range is recorded for it, and the batch brings one. -/
def Gains (t : Tables) (batch : List Policy) (guid : String) : Prop :=
  t.Names guid ∧ t.recorded guid = none ∧ (Policy.firstRange batch guid).isSome

variable {size : Nat} {t t' : Tables} {batch : List Policy} {id : Int} {g : String}

theorem Coherent.claimed_of_needs (h : t.Coherent size) (hn : t.Needs id) : Claimed t.slots id := by
  rcases hn with ⟨p, hp, rfl⟩ | ⟨d, hd, rfl⟩
  · exact h.sources p hp
  · exact h.owners d hd

theorem names_enterAll (h : t.Sound size) (he : t.enterAll batch = some t') :
    t'.Names g ↔ t.Names g ∨ g ∈ Policy.allIds batch := by
  rw [Names, Names, mem_allIds]
  constructor
  · rintro ⟨k, hk, hg⟩
    rcases (mem_keys_enterAll h he).1 hk with hk | hk
    · exact .inl ⟨k, hk, hg⟩
    · obtain ⟨p, hp, rfl⟩ := List.mem_map.1 hk
      exact .inr ⟨p, hp, hg⟩
  · rintro (⟨k, hk, hg⟩ | ⟨p, hp, hg⟩)
    · exact ⟨k, (mem_keys_enterAll h he).2 (.inl hk), hg⟩
    · exact ⟨p.key, (mem_keys_enterAll h he).2 (.inr (List.mem_map.2 ⟨p, hp, rfl⟩)), hg⟩

section Restored
variable (h : t.Sound size) (hnew : ∀ p ∈ batch, p.key ∉ t.keys) (he : t.enterAll batch = some t')
include h hnew he

theorem entries_restored : (t'.strikeAll (batch.map Policy.key)).entries =
    t.entries.map fun e => e.withRange (t'.rangeOf e.group.id) := by
  obtain ⟨h', -, -⟩ := h.enterAll he
  obtain ⟨more, hmore, hkeys⟩ := entries_enterAll h he
  have hold : ∀ e ∈ t.entries.map fun e => e.withRange (t'.rangeOf e.group.id),
      e.key ∉ batch.map Policy.key := by
    intro e hem hk
    obtain ⟨e₀, he₀, rfl⟩ := List.mem_map.1 hem
    obtain ⟨p, hp, hkey⟩ := List.mem_map.1 hk
    exact hnew p hp (hkey ▸ List.mem_map.2 ⟨e₀, he₀, rfl⟩)
  rw [entries_strikeAll h', hmore, List.filter_append,
    List.filter_eq_self.2 fun e hem => decide_eq_true (hold e hem),
    List.filter_eq_nil_iff.2 fun e hem => by simpa using hkeys e hem, List.append_nil]

theorem policies_restored : (t'.strikeAll (batch.map Policy.key)).policies = t.policies := by
  obtain ⟨h', -, -⟩ := h.enterAll he
  rw [policies_eq_map_row (h'.strikeAll _).toCoherent, entries_restored h hnew he, List.map_map,
    policies_eq_map_row h.toCoherent]
  rfl

theorem destinations_restored :
    (t'.strikeAll (batch.map Policy.key)).destinations = t.destinations := by
  obtain ⟨h', -, -⟩ := h.enterAll he
  obtain ⟨more, hmore, hlater⟩ := (growsTo_enterAll h he).destinations
  rw [(h'.reducesTo_strikeAll _).destinations, policies_restored h hnew he, hmore,
    List.filter_append]
  have hold : ∀ d ∈ t.destinations, ∃ p ∈ t.policies, p.destination = d.id := h.pointed
  -- a new destination has an id that none of the old policies can point at
  have hgone : ∀ d ∈ more, ¬ ∃ p ∈ t.policies, p.destination = d.id := by
    rintro d hd ⟨p, hp, hpd⟩
    obtain ⟨d', hd', hid⟩ := h.targets p hp
    have hle := h.taken d' hd'
    have hlt := hlater d hd
    omega
  rw [List.filter_eq_self.2 fun d hd => decide_eq_true (hold d hd),
    List.filter_eq_nil_iff.2 fun d hd => by simpa using hgone d hd, List.append_nil]

theorem needs_restored : (t'.strikeAll (batch.map Policy.key)).Needs id ↔ t.Needs id := by
  rw [Needs, Needs, policies_restored h hnew he, destinations_restored h hnew he]

theorem held_restored : (t'.strikeAll (batch.map Policy.key)).held =
    t.held.filter fun s => ¬ t.Borrows batch (s.guid.getD "") := by
  obtain ⟨h', -, hholders⟩ := h.enterAll he
  have hgrows := growsTo_enterAll h he
  have hneeds : (fun s : Slot =>
      decide (t'.Needs s.id → (t'.strikeAll (batch.map Policy.key)).Needs s.id)) =
      fun s => decide (t'.Needs s.id → t.Needs s.id) := by
    funext s
    rw [decide_eq_decide, needs_restored h hnew he]
  -- a guid that came to hold a slot is one of the batch, so the slot is needed only now
  have hold : ∀ s ∈ t'.held, decide (t'.Needs s.id → t.Needs s.id) = true → s ∈ t.slots := by
    intro s hs hkeep
    obtain ⟨hmem, hheld⟩ := List.mem_filter.1 hs
    obtain ⟨g, hg⟩ := Option.isSome_iff_exists.1 hheld
    have hholds : g ∈ t.holders ∪ Policy.allIds batch :=
      hholders ▸ mem_holders.2 (mem_guids.2 ⟨s, hmem, hg⟩)
    rcases Finset.mem_union.1 hholds with hwas | hnow
    · obtain ⟨a, ha, hag⟩ := mem_guids.1 (mem_holders.1 hwas)
      have ha' := hgrows.mem_slots ha (by rw [hag]; rfl)
      exact h'.pool.guids a ha' s hmem g hag hg ▸ ha
    · have hneeded : t'.Needs s.id :=
        (h'.needs_iff_names hmem hg).2 ((names_enterAll h he).2 (.inr hnow))
      obtain ⟨a, ha, haid, hasome⟩ :=
        h.toCoherent.claimed_of_needs (of_decide_eq_true hkeep hneeded)
      exact h'.pool.eq_of_id (hgrows.mem_slots ha hasome) hmem haid ▸ ha
  rw [(h'.reducesTo_strikeAll _).held, hneeds, hgrows.filter_held h.pool hold]
  refine List.filter_congr fun s hs => ?_
  obtain ⟨hmem, hheld⟩ := List.mem_filter.1 hs
  obtain ⟨g, hg⟩ := Option.isSome_iff_exists.1 hheld
  rw [decide_eq_decide, h'.needs_iff_names (hgrows.mem_slots hmem hheld) hg,
    h.needs_iff_names hmem hg, names_enterAll h he, hg, Option.getD_some, Borrows]
  tauto

theorem ranges_restored : ∃ more, (t'.strikeAll (batch.map Policy.key)).ranges = t.ranges ++ more ∧
    ∀ r ∈ more, ∃ guid s, t.slotOf guid = some s ∧ s.id = r.group ∧ t.Gains batch guid := by
  obtain ⟨h', -, -⟩ := h.enterAll he
  have hgrows := growsTo_enterAll h he
  obtain ⟨new, hranges⟩ := hgrows.ranges
  have hleft : (t'.strikeAll (batch.map Policy.key)).ranges =
      t'.ranges.filter fun r => t.Needs r.group := by
    rw [(h'.reducesTo_strikeAll _).ranges]
    exact List.filter_congr fun r _ => by rw [decide_eq_decide, needs_restored h hnew he]
  have hold : ∀ r ∈ t.ranges, t.Needs r.group := h.used
  refine ⟨new.filter fun r => t.Needs r.group, ?_, fun r hr => ?_⟩
  · rw [hleft, ← hranges, List.filter_append,
      List.filter_eq_self.2 fun r hr => decide_eq_true (hold r hr)]
  · obtain ⟨hrnew, hneeds⟩ := List.mem_filter.1 hr
    have hneeds : t.Needs r.group := of_decide_eq_true hneeds
    obtain ⟨s, hs, hid, hheld⟩ := h.toCoherent.claimed_of_needs hneeds
    obtain ⟨guid, hg⟩ := Option.isSome_iff_exists.1 hheld
    have hslot : t.slotOf guid = some s := (slotOf_eq_some h.pool).2 ⟨hs, hg⟩
    refine ⟨guid, s, hslot, hid, (h.needs_iff_names hs hg).1 (hid ▸ hneeds), ?_⟩
    have hnone : t.recorded guid = none := by
      rw [recorded_of_slotOf hslot, hid, rangeOf_of_new h'.toCoherent hranges hrnew]
      rfl
    have hsome : (t'.recorded guid).isSome := by
      have hslot' : t'.slotOf guid = some s :=
        (slotOf_eq_some h'.pool).2 ⟨hgrows.mem_slots hs hheld, hg⟩
      rw [recorded_of_slotOf hslot', Option.isSome_map, rangeOf, List.find?_isSome]
      exact ⟨r, hranges ▸ List.mem_append_right _ hrnew, by simpa using hid.symm⟩
    -- what is recorded now and was not before is what the batch brought
    refine ⟨hnone, ?_⟩
    rwa [recorded_enterAll h he, hnone, Option.none_or] at hsome

end Restored

theorem rangeOf_enterAll_of_mem (h : t.Sound size) (he : t.enterAll batch = some t') {e : Entry}
    (hem : e ∈ t.entries) (hn : ¬ t.Gains batch (e.group.guid.getD "")) :
    t'.rangeOf e.group.id = e.range := by
  obtain ⟨h', -, -⟩ := h.enterAll he
  have hgrows := growsTo_enterAll h he
  obtain ⟨hj, hr⟩ := (mem_entries h.toCoherent).1 hem
  have htells := hj.tells h.toCoherent hr
  cases hrange : t.rangeOf e.group.id with
  | some r => rw [hj.range, hrange, hgrows.rangeOf_of_some hrange]
  | none =>
    have hslot := (slotOf_eq_some h.pool).2 ⟨hj.group, htells.group⟩
    have hslot' := (slotOf_eq_some h'.pool).2
      ⟨hgrows.mem_slots hj.group (by rw [htells.group]; rfl), htells.group⟩
    have hrecorded := recorded_enterAll (g := e.key.destination) h he
    have hnone : t.recorded e.key.destination = none := by
      rw [recorded_of_slotOf hslot, hrange]
      rfl
    have hnames : t.Names e.key.destination :=
      (h.needs_iff_names hj.group htells.group).1 (needs_ends hj hr).2
    rw [htells.group, Option.getD_some] at hn
    have hfirst : Policy.firstRange batch e.key.destination = none :=
      Option.not_isSome_iff_eq_none.1 fun hsome => hn ⟨hnames, hnone, hsome⟩
    rw [recorded_of_slotOf hslot', hnone, hfirst, Option.none_or, Option.map_eq_none_iff]
      at hrecorded
    rw [hj.range, hrange, hrecorded]

theorem filterMap_tagOf?_held (t : Tables) (n : TagLength) :
    t.held.filterMap (Store.tagOf? n) = t.slots.filterMap (Store.tagOf? n) := by
  rw [held, List.filterMap_filter]
  refine List.filterMap_congr fun s _ => ?_
  cases hg : s.guid <;> simp [Store.tagOf?, hg]

theorem filterMap_tagOf?_filter (keep : String → Bool) (slots : List Slot) (n : TagLength) :
    (slots.filter fun s => keep (s.guid.getD "")).filterMap (Store.tagOf? n) =
      (slots.filterMap (Store.tagOf? n)).filter fun tag => keep tag.id := by
  rw [List.filter_filterMap, List.filterMap_filter]
  refine List.filterMap_congr fun s _ => ?_
  cases hg : s.guid with
  | none => simp [Store.tagOf?, hg]
  | some g => by_cases hkeep : keep g <;> simp [Store.tagOf?, hg, hkeep, Option.filter]

end Tables

def Policy.withRanges (p : Policy) (ranges : List AddressRange) : Policy :=
  { p with destination := { p.destination with ranges } }

/-- A batch of new policies that was created and then deleted leaves the policies and the
destinations as they were. The slots are held as before, but for those that only a claim kept for a
guid of the batch. Ranges are as before, and so is the listing, but for the groups that gained a
range: they were named before and had none. -/
theorem delete_restores_create (n m : TagLength) (requests : List Request) (batch : List Policy)
    (s' : Session) (hnew : ∀ p ∈ batch, p.key ∉ (served n requests).database.tables.keys)
    (hcreated : (Store.create batch).on (served n requests) = (.ok (), s')) :
    let t := (served n requests).database.tables
    ∃ s'', (Store.delete batch).on s' = (.ok (), s'') ∧
      s''.database.tables.policies = t.policies ∧
      s''.database.tables.destinations = t.destinations ∧
      s''.database.tables.held = t.held.filter (fun s => ¬ t.Borrows batch (s.guid.getD "")) ∧
      (∃ more, s''.database.tables.ranges = t.ranges ++ more ∧
        ∀ r ∈ more, ∃ guid s, t.slotOf guid = some s ∧ s.id = r.group ∧ t.Gains batch guid) ∧
      (∃ listed listed', (Store.all m).on (served n requests) = (.ok listed, served n requests) ∧
        (Store.all m).on s'' = (.ok listed', s'') ∧
        List.Forall₂ (fun p q => q = p.withRanges q.destination.ranges ∧
          (¬ t.Gains batch p.destination.id → q = p)) listed listed') ∧
      ∃ tags, (Store.tags m).on (served n requests) = (.ok tags, served n requests) ∧
        (Store.tags m).on s'' = (.ok (tags.filter fun tag => ¬ t.Borrows batch tag.id), s'') := by
  intro t
  have hs := serves_served n requests
  have h : t.Sound n.poolSize := hs.sound
  obtain ⟨t', he, rfl⟩ := hs.entered_of_create hcreated
  obtain ⟨h', -, -⟩ := h.enterAll he
  have hs' := hs.withTables h'
  have hs'' := hs'.withTables (h'.strikeAll (batch.map Policy.key))
  refine ⟨_, hs'.delete batch, Tables.policies_restored h hnew he,
    Tables.destinations_restored h hnew he, Tables.held_restored h hnew he,
    Tables.ranges_restored h hnew he, ⟨_, _, hs.all m, hs''.all m, ?_⟩, _, hs.tags m,
    (hs''.tags m).trans ?_⟩
  · rw [Session.withTables_tables, Tables.entries_restored h hnew he, List.map_map,
      List.forall₂_map_left_iff, List.forall₂_map_right_iff, List.forall₂_same]
    intro e hem
    refine ⟨rfl, fun hn => ?_⟩
    have hsame : e.withRange (t'.rangeOf e.group.id) = e := by
      rw [Tables.rangeOf_enterAll_of_mem h he hem hn]
      rfl
    rw [Function.comp_apply, hsame]
  · rw [Session.withTables_tables, ← Tables.filterMap_tagOf?_held, Tables.held_restored h hnew he,
      Tables.filterMap_tagOf?_filter fun guid => ¬ t.Borrows batch guid,
      Tables.filterMap_tagOf?_held]
    rfl

def fewRequests : List Request :=
  [.createTag .oneByte "c" "", .create [Store.link "a" "b" "tcp" 80]]

/-- A tag and a policy beside the new one stay. -/
theorem delete_restores_create_beside :
    (∀ p ∈ [Store.link "a" "d" "udp" 53],
      p.key ∉ (served { bytes := 1 } fewRequests).database.tables.keys) ∧
    ∃ s' s'', (Store.create [Store.link "a" "d" "udp" 53]).on
        (served { bytes := 1 } fewRequests) = (.ok (), s') ∧
      (Store.delete [Store.link "a" "d" "udp" 53]).on s' = (.ok (), s'') ∧
      s''.database.tables.policies =
        (served { bytes := 1 } fewRequests).database.tables.policies := by
  have hnew : ∀ p ∈ [Store.link "a" "d" "udp" 53],
      p.key ∉ (served { bytes := 1 } fewRequests).database.tables.keys := by
    rw [tables_served]
    decide +kernel
  have hroom : ((served { bytes := 1 } fewRequests).database.tables.enterAll
      [Store.link "a" "d" "udp" 53]).isSome := by
    rw [tables_served]
    decide +kernel
  have hcreated := (serves_served { bytes := 1 } fewRequests).create_after hroom
  obtain ⟨s'', hdeleted, hpolicies, -⟩ :=
    delete_restores_create { bytes := 1 } { bytes := 1 } fewRequests _ _ hnew hcreated
  exact ⟨hnew, _, s'', hcreated, hdeleted, hpolicies⟩

def andBack (p : Policy) : List Request :=
  fewRequests ++ [.create [p], .delete [p]]

def ranged : Policy :=
  (Store.link "a" "b" "tcp" 81).withRanges [⟨"10.0.0.1", "10.0.0.9"⟩]

/-- The tag that only a claim kept is gone when a policy from its guid was created and deleted, and
the range that a policy brings to a destination without one is still there when it is deleted. -/
theorem create_then_delete_leaves_traces :
    (∀ p ∈ [Store.link "c" "d" "tcp" 80, ranged],
      p.key ∉ (served { bytes := 1 } fewRequests).database.tables.keys ∧
        (Store.create [p]).on (served { bytes := 1 } fewRequests) =
          (.ok (), (served { bytes := 1 } fewRequests).after (.create [p])) ∧
        (Store.delete [p]).on ((served { bytes := 1 } fewRequests).after (.create [p])) =
          (.ok (), served { bytes := 1 } (andBack p))) ∧
    (∃ tags tags', (Store.tags { bytes := 1 }).on (served { bytes := 1 } fewRequests) =
        (.ok tags, served { bytes := 1 } fewRequests) ∧
      (Store.tags { bytes := 1 }).on
          (served { bytes := 1 } (andBack (Store.link "c" "d" "tcp" 80))) =
        (.ok tags', served { bytes := 1 } (andBack (Store.link "c" "d" "tcp" 80))) ∧
      tags.map (·.id) = ["c", "a", "b"] ∧ tags'.map (·.id) = ["a", "b"]) ∧
    ∃ listed listed', (Store.all { bytes := 1 }).on (served { bytes := 1 } fewRequests) =
        (.ok listed, served { bytes := 1 } fewRequests) ∧
      (Store.all { bytes := 1 }).on (served { bytes := 1 } (andBack ranged)) =
        (.ok listed', served { bytes := 1 } (andBack ranged)) ∧
      listed.map (·.destination.ranges) = [[]] ∧
      listed'.map (·.destination.ranges) = [[⟨"10.0.0.1", "10.0.0.9"⟩]] := by
  refine ⟨fun p hp => ⟨?_, ?_, ?_⟩, ⟨_, _, (serves_served _ _).tags _, (serves_served _ _).tags _,
    ?_, ?_⟩, _, _, (serves_served _ _).all _, (serves_served _ _).all _, ?_, ?_⟩
  · revert p
    rw [tables_served]
    decide +kernel
  · refine (serves_served _ _).create_after ?_
    revert p
    rw [tables_served]
    decide +kernel
  · exact ((serves_served _ _).after _).delete_after _
  · rw [tables_served]
    decide +kernel
  · rw [tables_served]
    decide +kernel
  · rw [tables_served]
    decide +kernel
  · rw [tables_served]
    decide +kernel

end NetworkPolicy
