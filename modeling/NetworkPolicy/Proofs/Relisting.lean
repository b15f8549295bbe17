import NetworkPolicy.Proofs.Ranges

namespace NetworkPolicy

namespace Tables

/-- There is a policy with the key, and no range is wanting. -/
def Knows (t : Tables) (p : Policy) : Prop :=
  p.key ∈ t.keys ∧ (p.destination.ranges = [] ∨ t.recorded p.destination.id ≠ none)

variable {size : Nat} {t : Tables} {e : Entry} {p : Policy} {batch : List Policy}

theorem enter_of_knows (h : t.Coherent size) (hknows : t.Knows p) :
    t.enter p = some { t with lastDestination := t.lastDestination + 1 } := by
  obtain ⟨hkey, hrange⟩ := hknows
  obtain ⟨e, hseek, hrow⟩ := (mem_keys h).1 hkey
  obtain ⟨hj, htells⟩ := (seek_eq_some h).1 hseek
  have hsource : t.slotOf p.source.id = some e.source :=
    (slotOf_eq_some h.pool).2 ⟨hj.source, htells.source⟩
  have hgroup : t.slotOf p.destination.id = some e.group :=
    (slotOf_eq_some h.pool).2 ⟨hj.group, htells.group⟩
  have hfound : t.findDestination (Store.destinationKey e.group.id p.destination) =
      some e.destination := (findDestination_eq_some h).2 ⟨hj.destination, htells.destination⟩
  have hclaims : t.enter p = some (t.point e.source.id e.group.id p.destination) := by
    simp only [enter, claim, hsource, hgroup, Option.bind_eq_bind, Option.bind_some,
      Option.pure_def]
  -- the destination is there, and so is its range if the policy has one
  have hput : t.put e.group.id p.destination =
      { t with lastDestination := t.lastDestination + 1 } := by
    rw [put, putDestination, if_pos (by rw [hfound]; rfl)]
    cases hranges : p.destination.ranges with
    | nil => rfl
    | cons r rest =>
      have hrecorded := hrange.resolve_left (by rw [hranges]; exact List.cons_ne_nil r rest)
      rw [recorded_of_slotOf hgroup, ne_eq, Option.map_eq_none_iff] at hrecorded
      exact if_pos (Option.isSome_iff_ne_none.2 hrecorded)
  -- a row that is there already is left out
  have hthere : t.policies.contains e.row = true := List.contains_iff_mem.2 hrow
  rw [hclaims, point, hput]
  simp only [findDestination] at hfound ⊢
  rw [hfound]
  exact congrArg some (if_pos hthere)

/-- By induction on the batch: policies that are there are entered without a trace. -/
theorem enterAll_of_knows (h : t.Sound size) (hknows : ∀ p ∈ batch, t.Knows p) :
    ∃ last, t.enterAll batch = some { t with lastDestination := last } := by
  induction batch generalizing t with
  | nil => exact ⟨t.lastDestination, rfl⟩
  | cons p rest ih =>
    have he := enter_of_knows h.toCoherent (hknows p List.mem_cons_self)
    obtain ⟨last, hlast⟩ := ih (h.enter he) fun q hq => hknows q (List.mem_cons_of_mem p hq)
    refine ⟨last, ?_⟩
    rw [enterAll, List.foldlM_cons, he]
    exact hlast

theorem knows_of_mem (h : t.Coherent size) (he : e ∈ t.entries) (n : TagLength) :
    t.Knows (e.policy n) := by
  have hkey : (e.policy n).key = e.key := key_policy_of_mem h he
  refine ⟨hkey ▸ List.mem_map.2 ⟨e, he, rfl⟩, ?_⟩
  have hdestination : (e.policy n).destination.id = e.key.destination := rfl
  have hranges : (e.policy n).destination.ranges = e.ranges := rfl
  rw [hdestination, hranges, ranges_of_mem h he]
  cases t.recorded e.key.destination <;> simp

theorem names_iff (hkeys : batch.map Policy.key = t.keys) {g : String} :
    t.Names g ↔ ∃ p ∈ batch, g = p.source.id ∨ g = p.destination.id := by
  rw [Names, ← hkeys]
  simp [Policy.Key.ids, Policy.key]

end Tables

namespace Session.Serves

variable {size : Nat} {s : Session} {batch : List Policy}

theorem create_of_knows (h : s.Serves size) (hknows : ∀ p ∈ batch, s.database.tables.Knows p) :
    ∃ s', (Store.create batch).on s = (.ok (), s') ∧
      s'.database.tables.slots = s.database.tables.slots ∧
      s'.database.tables.destinations = s.database.tables.destinations ∧
      s'.database.tables.policies = s.database.tables.policies ∧
      s'.database.tables.ranges = s.database.tables.ranges := by
  obtain ⟨last, he⟩ := Tables.enterAll_of_knows h.sound hknows
  have hanswer := h.create batch
  rw [he] at hanswer
  exact ⟨_, hanswer, rfl, rfl, rfl, rfl⟩

theorem delete_of_keys (h : s.Serves size)
    (hkeys : batch.map Policy.key = s.database.tables.keys) :
    ∃ s', (Store.delete batch).on s = (.ok (), s') ∧ s'.database.tables.policies = [] ∧
      s'.database.tables.destinations = [] ∧ s'.database.tables.ranges = [] ∧
      s'.database.tables.held = s.database.tables.held.filter fun slot =>
        ∀ p ∈ batch, slot.guid ≠ some p.source.id ∧ slot.guid ≠ some p.destination.id := by
  have hsubset : s.database.tables.keys ⊆ batch.map Policy.key := hkeys ▸ List.Subset.refl _
  obtain ⟨hpolicies, hdestinations, hranges, hheld⟩ := h.sound.strikeAll_keys hsubset
  refine ⟨_, h.delete batch, hpolicies, hdestinations, hranges, hheld.trans ?_⟩
  refine List.filter_congr fun slot hslot => ?_
  obtain ⟨g, hg⟩ := Option.isSome_iff_exists.1 (List.mem_filter.1 hslot).2
  rw [decide_eq_decide, Tables.names_iff hkeys, hg, Option.getD_some]
  simp only [ne_eq, Option.some.injEq, not_exists, not_and, not_or]

end Session.Serves

/-- A listing shows the rows of the policies. It can be created again, which changes no row, and
deleted, which leaves no policy, no destination and no range, and claims only for guids that the
listing does not mention. -/
theorem listing_reads_back (n m : TagLength) (requests : List Request) :
    let t := (served n requests).database.tables
    ∃ listed, (Store.all m).on (served n requests) = (.ok listed, served n requests) ∧
      List.Forall₂ t.Stores t.policies (listed.map Policy.key) ∧
      (∃ s', (Store.create listed).on (served n requests) = (.ok (), s') ∧
        s'.database.tables.slots = t.slots ∧ s'.database.tables.destinations = t.destinations ∧
        s'.database.tables.policies = t.policies ∧ s'.database.tables.ranges = t.ranges) ∧
      ∃ s', (Store.delete listed).on (served n requests) = (.ok (), s') ∧
        s'.database.tables.policies = [] ∧ s'.database.tables.destinations = [] ∧
        s'.database.tables.ranges = [] ∧
        s'.database.tables.held = t.held.filter fun slot =>
          ∀ p ∈ listed, slot.guid ≠ some p.source.id ∧ slot.guid ≠ some p.destination.id := by
  intro t
  have hs := serves_served n requests
  have h : t.Coherent n.poolSize := hs.sound.toCoherent
  refine ⟨_, hs.all m, Tables.stores_policy h, hs.create_of_knows fun p hp => ?_,
    hs.delete_of_keys (Tables.map_key_policy h)⟩
  obtain ⟨e, he, rfl⟩ := List.mem_map.1 hp
  exact Tables.knows_of_mem h he m

end NetworkPolicy
