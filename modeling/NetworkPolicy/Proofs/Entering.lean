import Mathlib.Data.Finset.Card
import NetworkPolicy.Proofs.Entries
import NetworkPolicy.Proofs.Uninterrupted
import NetworkPolicy.Store.Tags

namespace NetworkPolicy

def Policy.Key.ids (k : Policy.Key) : Finset String :=
  {k.source, k.destination}

def Policy.allIds : List Policy → Finset String
  | [] => ∅
  | p :: rest => p.key.ids ∪ allIds rest

/-- Keys with one more, last, unless it is there. -/
def Policy.Key.noted (keys : List Policy.Key) (k : Policy.Key) : List Policy.Key :=
  if k ∈ keys then keys else keys ++ [k]

namespace Tables

def holders (t : Tables) : Finset String :=
  t.guids.toFinset

/-- Points a policy at its destination, which is put there first, with its range. -/
def point (t : Tables) (source group : Int) (e : Destination) : Tables :=
  match (t.put group e).findDestination (Store.destinationKey group e) with
  | some d => (t.put group e).putPolicy ⟨source, d.id⟩
  | none => t.put group e

/-- Enters a policy, unless a slot is wanting. -/
def enter (t : Tables) (p : Policy) : Option Tables := do
  let (source, t) ← t.claim p.source.id (typeOrDefault p.source.type)
  let (group, t) ← t.claim p.destination.id (typeOrDefault p.destination.type)
  return t.point source group p.destination

/-- Enters a batch, unless a slot is wanting for one of its policies. -/
def enterAll (t : Tables) (batch : List Policy) : Option Tables :=
  batch.foldlM enter t

variable {size : Nat} {t t' : Tables} {id : Int} {guid type : String}

theorem mem_allIds {batch : List Policy} {g : String} :
    g ∈ Policy.allIds batch ↔ ∃ p ∈ batch, g ∈ p.key.ids := by
  induction batch with
  | nil => simp [Policy.allIds]
  | cons p rest ih => rw [Policy.allIds, Finset.mem_union, ih, List.exists_mem_cons_iff]

theorem allIds_append (a b : List Policy) :
    Policy.allIds (a ++ b) = Policy.allIds a ∪ Policy.allIds b := by
  ext g
  simp only [mem_allIds, Finset.mem_union, List.mem_append, or_and_right, exists_or]

section Claim
variable (h : t.Coherent size) (hc : t.claim guid type = some (id, t'))
include h hc

theorem mem_guids_claim {g : String} : g ∈ t'.guids ↔ g ∈ t.guids ∨ g = guid := by
  obtain ⟨s, hs, -, rfl⟩ | ⟨s, -, hs, -, rfl⟩ := claim_cases hc
  · constructor
    · exact .inl
    · rintro (hg | rfl)
      · exact hg
      · by_contra hnot
        rw [slotOf_eq_none.2 hnot] at hs
        cases hs
  · exact mem_guids_giveSlot h.pool hs

theorem slotOf_claim (ht : type.isEmpty = false) : ∃ s, t'.slotOf guid = some s ∧ s.id = id := by
  obtain ⟨s, hs, rfl, rfl⟩ | ⟨s, hg, hs, rfl, rfl⟩ := claim_cases hc
  · exact ⟨s, hs, rfl⟩
  · exact ⟨_, slotOf_giveSlot h hs hg ht, rfl⟩

theorem slotOf_claim_of_some (ht : type.isEmpty = false) {g : String} {s : Slot}
    (hs : t.slotOf g = some s) : t'.slotOf g = some s := by
  obtain ⟨_, -, -, rfl⟩ | ⟨free, hg, hf, -, rfl⟩ := claim_cases hc
  · exact hs
  · obtain ⟨hmem, hguid⟩ := (slotOf_eq_some h.pool).1 hs
    obtain ⟨hfmem, hfree⟩ := freeSlot_eq_some hf
    have hne : s.id ≠ free.id := by
      intro e
      rw [h.pool.eq_of_id hmem hfmem e, hfree] at hguid
      cases hguid
    exact (slotOf_eq_some (h.giveSlot hf hg ht).pool).2
      ⟨(mem_fillSlot h.pool hfmem).2 (.inl ⟨hmem, hne⟩), hguid⟩

theorem entries_claim : t'.entries = t.entries := by
  obtain ⟨_, -, -, rfl⟩ | ⟨free, -, hf, -, rfl⟩ := claim_cases hc
  · rfl
  · obtain ⟨hmem, hfree⟩ := freeSlot_eq_some hf
    exact entries_fillSlot (not_needs_of_free h hmem hfree)

theorem keys_claim : t'.keys = t.keys := by
  rw [keys, entries_claim h hc, ← keys]

end Claim

theorem Sound.claim (h : t.Sound size) (ht : type.isEmpty = false)
    (hc : t.claim guid type = some (id, t')) : t'.Sound size := by
  obtain ⟨hcoherent, -, -⟩ := h.toCoherent.claim ht hc
  obtain ⟨_, -, -, rfl⟩ | ⟨_, -, -, -, rfl⟩ := claim_cases hc
  · exact h
  · exact { hcoherent with pointed := h.pointed, used := h.used }

section Point
variable {source group : Int} {e : Destination}

theorem findDestination_put (t : Tables) (group : Int) (e : Destination) :
    ∃ d, (t.put group e).findDestination (Store.destinationKey group e) = some d := by
  rw [findDestination, put, putRange_destinations]
  by_cases hk : (t.findDestination (Store.destinationKey group e)).isSome = true
  · rw [putDestination, if_pos hk]
    exact Option.isSome_iff_exists.1 hk
  · refine Option.isSome_iff_exists.1 (List.find?_isSome.2 ?_)
    rw [putDestination, if_neg hk]
    exact ⟨_, List.mem_append_right _ (List.mem_singleton.2 rfl), by simp⟩

theorem point_eq (t : Tables) (source group : Int) (e : Destination) :
    ∃ d, (t.put group e).findDestination (Store.destinationKey group e) = some d ∧
      t.point source group e = (t.put group e).putPolicy ⟨source, d.id⟩ := by
  obtain ⟨d, hd⟩ := findDestination_put t group e
  exact ⟨d, hd, by simp only [point, hd]⟩

@[simp] theorem point_slots : (t.point source group e).slots = t.slots := by
  obtain ⟨d, -, hpoint⟩ := point_eq t source group e
  rw [hpoint]
  simp

theorem mem_putPolicy {p q : PolicyRow} :
    q ∈ (t.putPolicy p).policies ↔ q ∈ t.policies ∨ q = p := by
  unfold putPolicy
  split
  · next hin =>
    have hmem : p ∈ t.policies := by simpa using hin
    constructor
    · exact .inl
    · rintro (hq | rfl)
      · exact hq
      · exact hmem
  · simp

theorem mem_put {d : DestinationRow} (hd : d ∈ (t.put group e).destinations) :
    d ∈ t.destinations ∨ d.toDestinationKey = Store.destinationKey group e := by
  rw [put, putRange_destinations, putDestination] at hd
  split at hd
  · exact .inl hd
  · rcases List.mem_append.1 hd with hd | hd
    · exact .inl hd
    · exact .inr (by rw [List.mem_singleton.1 hd])

theorem mem_put_of_mem {d : DestinationRow} (hd : d ∈ t.destinations) :
    d ∈ (t.put group e).destinations := by
  rw [put, putRange_destinations, putDestination]
  split
  · exact hd
  · exact List.mem_append_left _ hd

theorem mem_ranges_put {r : RangeRow} (hr : r ∈ (t.put group e).ranges) :
    r ∈ t.ranges ∨ r.group = group := by
  rw [put] at hr
  cases hranges : e.ranges with
  | nil =>
    rw [hranges, putRange, putDestination_ranges] at hr
    exact .inl hr
  | cons a _ =>
    rw [hranges, putRange] at hr
    split at hr
    · exact .inl (by simpa using hr)
    · rcases List.mem_append.1 hr with hr | hr
      · exact .inl (by simpa using hr)
      · exact .inr (by rw [List.mem_singleton.1 hr])

/-- Pointing a policy keeps the tables sound: what was put is what the policy needs. -/
theorem Sound.point (h : t.Sound size) (hs : Claimed t.slots source) (hg : Claimed t.slots group)
    (e : Destination) : (t.point source group e).Sound size := by
  obtain ⟨d, hd, hpoint⟩ := point_eq t source group e
  have hput := h.toCoherent.put hg e
  obtain ⟨hdmem, hdkey⟩ := (findDestination_eq_some hput).1 hd
  rw [hpoint]
  refine { hput.putPolicy (by simpa using hs) ⟨d, hdmem, rfl⟩ with pointed := ?_, used := ?_ }
  · intro d' hd'
    rw [putPolicy_destinations] at hd'
    rcases mem_put hd' with hold | hkey
    · obtain ⟨p, hp, hpid⟩ := h.pointed d' hold
      exact ⟨p, mem_putPolicy.2 (.inl (by simpa using hp)), hpid⟩
    · rw [hput.eq_of_key hd' hdmem (hkey.trans hdkey.symm)]
      exact ⟨_, mem_putPolicy.2 (.inr rfl), rfl⟩
  · intro r hr
    rw [putPolicy_ranges] at hr
    rcases mem_ranges_put hr with hold | hgroup
    · rcases h.used r hold with ⟨p, hp, hps⟩ | ⟨d', hd', hdg⟩
      · exact .inl ⟨p, mem_putPolicy.2 (.inl (by simpa using hp)), hps⟩
      · exact .inr ⟨d', by simpa using mem_put_of_mem hd', hdg⟩
    · refine .inr ⟨d, by simpa using hdmem, ?_⟩
      rw [hgroup]
      exact congrArg DestinationKey.group hdkey

theorem keys_point (h : t.Coherent size) {p : Policy} {s g : Slot}
    (hs : t.slotOf p.source.id = some s) (hg : t.slotOf p.destination.id = some g) :
    (t.point s.id g.id p.destination).keys =
      Policy.Key.noted t.keys p.key := by
  obtain ⟨d, hd, hpoint⟩ := point_eq t s.id g.id p.destination
  have hput := h.put (claimed_of_slotOf hg) p.destination
  have hkeys : (t.put g.id p.destination).keys = t.keys := by
    rw [put, keys_putRange, keys, entries_putDestination h, ← keys]
  have hslots : (t.put g.id p.destination).slots = t.slots := put_slots _ _ _
  rw [hpoint, ← hkeys]
  generalize t.put g.id p.destination = u at *
  have hseek : u.seek p.key = some ⟨s, d, g, u.rangeOf g.id⟩ := by
    have hs' : u.slotOf p.key.source = some s := by rw [slotOf, hslots]; exact hs
    have hg' : u.slotOf p.key.destination = some g := by rw [slotOf, hslots]; exact hg
    have hd' : u.findDestination (p.key.within g.id) = some d := hd
    simp only [seek, hs', hg', hd', Option.bind_eq_bind, Option.bind_some, Option.pure_def]
  by_cases hin : (⟨s.id, d.id⟩ : PolicyRow) ∈ u.policies
  · have hmem : p.key ∈ u.keys := (mem_keys hput).2 ⟨⟨s, d, g, u.rangeOf g.id⟩, hseek, hin⟩
    rw [Policy.Key.noted, if_pos hmem, putPolicy, if_pos (by simpa using hin)]
  · have hnew : p.key ∉ u.keys := by
      intro hmem
      obtain ⟨e, he, hrow⟩ := (mem_keys hput).1 hmem
      rw [hseek] at he
      cases he
      exact hin hrow
    obtain ⟨hjoins, htells⟩ := (seek_eq_some hput).1 hseek
    have hentry : u.entry? ⟨s.id, d.id⟩ = some ⟨s, d, g, u.rangeOf g.id⟩ :=
      (entry_eq_some hput).2 ⟨hjoins, rfl⟩
    rw [Policy.Key.noted, if_neg hnew, putPolicy, if_neg (by simpa using hin), keys_eq_filterMap,
      keys_eq_filterMap]
    -- entries are read off the other rows, so the new policy is the last of them
    show (u.policies ++ [(⟨s.id, d.id⟩ : PolicyRow)]).filterMap
      (fun r => Option.map Entry.key <| u.entry? r) = _
    rw [List.filterMap_append]
    simp [hentry, htells.key_eq]

end Point

section Holders

theorem mem_holders {g : String} : g ∈ t.holders ↔ g ∈ t.guids :=
  List.mem_toFinset

theorem card_holders (h : t.Coherent size) : t.holders.card = t.guids.length :=
  List.toFinset_card_of_nodup (nodup_guids h.pool)

theorem card_holders_le (h : t.Coherent size) : t.holders.card ≤ size := by
  rw [card_holders h]
  exact length_guids_le h.pool

theorem holders_claim (h : t.Coherent size) (hc : t.claim guid type = some (id, t')) :
    t'.holders = insert guid t.holders := by
  ext g
  rw [mem_holders, mem_guids_claim h hc, Finset.mem_insert, mem_holders, or_comm]

theorem claim_eq_none_iff_card (h : t.Coherent size) :
    t.claim guid type = none ↔ size < (insert guid t.holders).card := by
  rw [claim_eq_none, ← length_guids_eq_iff h.pool, ← card_holders h, ← mem_holders]
  have hle := card_holders_le h
  by_cases hg : guid ∈ t.holders
  · rw [Finset.insert_eq_of_mem hg]
    constructor
    · rintro ⟨hnot, -⟩
      exact absurd hg hnot
    · intro hlt
      omega
  · rw [Finset.card_insert_of_notMem hg]
    constructor
    · rintro ⟨-, hfull⟩
      omega
    · intro hlt
      exact ⟨hg, by omega⟩

end Holders

section Enter
variable {p : Policy}

theorem enter_cases (he : t.enter p = some t') :
    ∃ source t₁ group t₂,
      t.claim p.source.id (typeOrDefault p.source.type) = some (source, t₁) ∧
      t₁.claim p.destination.id (typeOrDefault p.destination.type) = some (group, t₂) ∧
      t' = t₂.point source group p.destination := by
  simp only [enter, Option.bind_eq_bind, Option.bind_eq_some_iff] at he
  obtain ⟨⟨source, t₁⟩, hsource, ⟨group, t₂⟩, hgroup, he⟩ := he
  cases he
  exact ⟨source, t₁, group, t₂, hsource, hgroup, rfl⟩

theorem Sound.enter (h : t.Sound size) (he : t.enter p = some t') : t'.Sound size := by
  obtain ⟨source, t₁, group, t₂, hsource, hgroup, rfl⟩ := enter_cases he
  have h₁ := h.claim (typeOrDefault_isEmpty _) hsource
  have h₂ := h₁.claim (typeOrDefault_isEmpty _) hgroup
  obtain ⟨-, hs, -⟩ := h.toCoherent.claim (typeOrDefault_isEmpty _) hsource
  obtain ⟨-, hg, hkept⟩ := h₁.toCoherent.claim (typeOrDefault_isEmpty _) hgroup
  exact h₂.point (hkept _ hs) hg p.destination

theorem keys_enter (h : t.Sound size) (he : t.enter p = some t') :
    t'.keys = Policy.Key.noted t.keys p.key := by
  obtain ⟨source, t₁, group, t₂, hsource, hgroup, rfl⟩ := enter_cases he
  have h₁ := h.claim (typeOrDefault_isEmpty _) hsource
  have h₂ := h₁.claim (typeOrDefault_isEmpty _) hgroup
  have hkeys : t₂.keys = t.keys :=
    (keys_claim h₁.toCoherent hgroup).trans (keys_claim h.toCoherent hsource)
  obtain ⟨s, hs, rfl⟩ := slotOf_claim h.toCoherent hsource (typeOrDefault_isEmpty _)
  obtain ⟨g, hg, rfl⟩ := slotOf_claim h₁.toCoherent hgroup (typeOrDefault_isEmpty _)
  -- the second claim leaves the slot of the first
  have hs₂ := slotOf_claim_of_some h₁.toCoherent hgroup (typeOrDefault_isEmpty _) hs
  rw [keys_point h₂.toCoherent hs₂ hg, hkeys]

theorem holders_enter (h : t.Sound size) (he : t.enter p = some t') :
    t'.holders = t.holders ∪ p.key.ids := by
  obtain ⟨source, t₁, group, t₂, hsource, hgroup, rfl⟩ := enter_cases he
  have h₁ := h.claim (typeOrDefault_isEmpty _) hsource
  have hpoint : (t₂.point source group p.destination).holders = t₂.holders := by
    rw [holders, guids, point_slots, ← guids, ← holders]
  rw [hpoint, holders_claim h₁.toCoherent hgroup, holders_claim h.toCoherent hsource]
  ext g
  simp only [Policy.Key.ids, Policy.key, Finset.mem_insert, Finset.mem_union, Finset.mem_singleton]
  tauto

theorem enter_eq_none (h : t.Sound size) :
    t.enter p = none ↔ size < (t.holders ∪ p.key.ids).card := by
  have hunion : t.holders ∪ p.key.ids = insert p.destination.id (insert p.source.id t.holders) := by
    ext g
    simp only [Policy.Key.ids, Policy.key, Finset.mem_insert, Finset.mem_union,
      Finset.mem_singleton]
    tauto
  rw [hunion]
  cases hsource : t.claim p.source.id (typeOrDefault p.source.type) with
  | none =>
    have hfull := (claim_eq_none_iff_card h.toCoherent).1 hsource
    have hle := Finset.card_le_card (Finset.subset_insert p.destination.id
      (insert p.source.id t.holders))
    have hnone : t.enter p = none := by
      simp only [enter, hsource, Option.bind_eq_bind, Option.bind_none]
    exact ⟨fun _ => Nat.lt_of_lt_of_le hfull hle, fun _ => hnone⟩
  | some found =>
    have h₁ := h.claim (typeOrDefault_isEmpty _) hsource
    have hgroup : found.2.claim p.destination.id (typeOrDefault p.destination.type) = none ↔
        size < (insert p.destination.id found.2.holders).card :=
      claim_eq_none_iff_card h₁.toCoherent
    rw [← holders_claim h.toCoherent hsource, ← hgroup]
    simp only [enter, hsource, Option.bind_eq_bind, Option.bind_some]
    cases found.2.claim p.destination.id (typeOrDefault p.destination.type) <;> simp

end Enter

section EnterAll
variable {batch : List Policy}

/-- By induction on the batch: what a batch is refused for, and what it leaves. -/
theorem enterAll_eq_none (h : t.Sound size) :
    t.enterAll batch = none ↔ size < (t.holders ∪ Policy.allIds batch).card := by
  induction batch generalizing t with
  | nil =>
    have hle := card_holders_le h.toCoherent
    simp only [enterAll, List.foldlM_nil, Option.pure_def, Policy.allIds, Finset.union_empty,
      reduceCtorEq, false_iff]
    omega
  | cons p rest ih =>
    rw [enterAll, List.foldlM_cons, Policy.allIds, ← Finset.union_assoc]
    cases he : t.enter p with
    | none =>
      have hfull := (enter_eq_none h).1 he
      have hle : (t.holders ∪ p.key.ids).card ≤ (t.holders ∪ p.key.ids ∪ Policy.allIds rest).card :=
        Finset.card_le_card Finset.subset_union_left
      simp only [Option.bind_eq_bind, Option.bind_none, true_iff]
      omega
    | some t₁ =>
      rw [← holders_enter h he]
      exact ih (h.enter he)

theorem Sound.enterAll (h : t.Sound size) (he : t.enterAll batch = some t') :
    t'.Sound size ∧ t'.keys = (batch.map Policy.key).foldl Policy.Key.noted t.keys ∧
      t'.holders = t.holders ∪ Policy.allIds batch := by
  induction batch generalizing t with
  | nil =>
    cases he
    exact ⟨h, rfl, (Finset.union_empty _).symm⟩
  | cons p rest ih =>
    rw [Tables.enterAll, List.foldlM_cons] at he
    obtain ⟨t₁, he₁, hrest⟩ := Option.bind_eq_some_iff.1 he
    obtain ⟨hsound, hkeys, hholders⟩ := ih (h.enter he₁) hrest
    refine ⟨hsound, ?_, ?_⟩
    · rw [hkeys, keys_enter h he₁, List.map_cons, List.foldl_cons]
    · rw [hholders, holders_enter h he₁, Policy.allIds, Finset.union_assoc]

end EnterAll

end Tables

namespace Store

open Work

variable {size : Nat} {s : Session} {t t' : Tables} {p : Policy}

theorem createPolicy_withTables (hp : s.plan = []) (h : t.Sound size) (he : t.enter p = some t') :
    (createPolicy p).on (s.withTables t) = (.ok (), s.withTables t') := by
  obtain ⟨source, t₁, group, t₂, hsource, hgroup, rfl⟩ := Tables.enter_cases he
  have hs := typeOrDefault_isEmpty p.source.type
  have hg := typeOrDefault_isEmpty p.destination.type
  obtain ⟨h₁, hsclaimed, -⟩ := h.toCoherent.claim hs hsource
  obtain ⟨h₂, hgclaimed, hkept⟩ := h₁.claim hg hgroup
  obtain ⟨d, hd, hpoint⟩ := Tables.point_eq t₂ source group p.destination
  have hput := h₂.put hgclaimed p.destination
  obtain ⟨hdmem, -⟩ := (Tables.findDestination_eq_some hput).1 hd
  have hsput : Claimed (t₂.put group p.destination).slots source := by
    simpa using hkept source hsclaimed
  rw [createPolicy, bind_on, staged_on, claim_withTables hp h.toCoherent _ hs, hsource]
  simp only
  rw [bind_on, staged_on, claim_withTables hp h₁ _ hg, hgroup]
  simp only
  rw [bind_on, staged_on, findOrCreate_withTables hp h₂ _ hgclaimed, destinationId_withTables hput,
    hd]
  simp only
  rw [staged_on, addPolicy_withTables hp hput hsput ⟨d, hdmem, rfl⟩, hpoint]

theorem createPolicy_withTables_of_none (hp : s.plan = []) (h : t.Sound size)
    (he : t.enter p = none) :
    ∃ t', (createPolicy p).on (s.withTables t) =
      (.error (.stage "creating group" .poolExhausted), s.withTables t') := by
  have hs := typeOrDefault_isEmpty p.source.type
  have hg := typeOrDefault_isEmpty p.destination.type
  rw [createPolicy, bind_on, staged_on, claim_withTables hp h.toCoherent _ hs]
  cases hsource : t.claim p.source.id (typeOrDefault p.source.type) with
  | none => exact ⟨t, rfl⟩
  | some found =>
    obtain ⟨source, t₁⟩ := found
    obtain ⟨h₁, -, -⟩ := h.toCoherent.claim hs hsource
    cases hgroup : t₁.claim p.destination.id (typeOrDefault p.destination.type) with
    | none =>
      refine ⟨t₁, ?_⟩
      simp only
      rw [bind_on, staged_on, claim_withTables hp h₁ _ hg, hgroup]
    | some _ =>
      simp only [Tables.enter, hsource, hgroup, Option.bind_eq_bind, Option.bind_some,
        Option.pure_def, reduceCtorEq] at he

/-- By induction on the batch: the policies are entered one after the other. -/
theorem createAll_withTables (hp : s.plan = []) (h : t.Sound size) (batch : List Policy) :
    match t.enterAll batch with
    | some t' => (batch.forM createPolicy).on (s.withTables t) = (.ok (), s.withTables t')
    | none => ∃ t', (batch.forM createPolicy).on (s.withTables t) =
        (.error (.stage "creating group" .poolExhausted), s.withTables t') := by
  induction batch generalizing t with
  | nil => exact forM_nil_on _ _
  | cons p rest ih =>
    rw [Tables.enterAll, List.foldlM_cons, forM_cons_on]
    cases he : t.enter p with
    | none =>
      obtain ⟨t₁, hfailed⟩ := createPolicy_withTables_of_none hp h he
      exact ⟨t₁, by rw [hfailed]⟩
    | some t₁ =>
      rw [createPolicy_withTables hp h he]
      exact ih (h.enter he)

/-- A batch is created wholly, or not at all for want of a slot. -/
theorem create_withTables (hp : s.plan = []) (hopen : s.closed = false) (h : t.Sound size)
    (batch : List Policy) :
    (create batch).on (s.withTables t) =
      match t.enterAll batch with
      | some t' => (.ok (), s.withTables t')
      | none => (.error (.stage "creating group" .poolExhausted), s.withTables t) := by
  have hall := createAll_withTables hp h batch
  rw [create, transact_on, Session.withTables_closed, hopen]
  cases he : t.enterAll batch with
  | none =>
    rw [he] at hall
    obtain ⟨t₁, hfailed⟩ := hall
    rw [hfailed]
    rfl
  | some t₁ =>
    rw [he] at hall
    rw [hall]
    rfl

theorem createTag_withTables (hp : s.plan = []) (hopen : s.closed = false) (h : t.Coherent size)
    (n : TagLength) (guid type : String) :
    match t.claim guid (typeOrDefault type) with
    | some (_, t') =>
      ∃ tag, (createTag n guid type).on (s.withTables t) = (.ok tag, s.withTables t') ∧
        ∃ slot, t'.slotOf guid = some slot ∧ tagOf? n slot = some tag
    | none => (createTag n guid type).on (s.withTables t) =
        (.error (.stage "creating tag" .poolExhausted), s.withTables t) := by
  have ht := typeOrDefault_isEmpty type
  rw [createTag, transact_on, Session.withTables_closed, hopen, staged_on, bind_on,
    claim_withTables hp h guid ht]
  cases hc : t.claim guid (typeOrDefault type) with
  | none => rfl
  | some found =>
    obtain ⟨id, t'⟩ := found
    obtain ⟨h', -, -⟩ := h.claim ht hc
    obtain ⟨slot, hslot, rfl⟩ := Tables.slotOf_claim h hc ht
    obtain ⟨hmem, hguid⟩ := (Tables.slotOf_eq_some h'.pool).1 hslot
    have hat : t'.slotAt slot.id = some slot := (Tables.slotAt_eq_some h'.pool).2 ⟨hmem, rfl⟩
    refine ⟨⟨guid, n.format slot.id, slot.type.getD ""⟩, ?_, slot, hslot, by simp [tagOf?, hguid]⟩
    simp only [Bool.false_eq_true, if_false]
    rw [bind_on, slotType, bind_on, query_withTables h'.schema rfl, hat]
    rfl

end Store

end NetworkPolicy
