import NetworkPolicy.Proofs.Entering

namespace NetworkPolicy

namespace Policy.Key

/-- Between two lists of keys the guid leaves: it is of a key that goes and of none that stays. -/
def Leaves (before after : List Policy.Key) (guid : String) : Prop :=
  (∃ k ∈ before, k ∉ after ∧ guid ∈ k.ids) ∧ ∀ k ∈ after, guid ∉ k.ids

instance (before after : List Policy.Key) (guid : String) : Decidable (Leaves before after guid) :=
  inferInstanceAs (Decidable (_ ∧ _))

variable {before mid after : List Policy.Key} {guid : String}

theorem not_leaves_self (keys : List Policy.Key) : ¬ Leaves keys keys guid := by
  rintro ⟨⟨k, hk, hnot, -⟩, -⟩
  exact hnot hk

theorem leaves_iff_or (hmid : mid ⊆ before) (hafter : after ⊆ mid) :
    Leaves before after guid ↔ Leaves before mid guid ∨ Leaves mid after guid := by
  constructor
  · rintro ⟨⟨k, hk, hgone, hg⟩, hleft⟩
    by_cases hstill : ∃ k' ∈ mid, guid ∈ k'.ids
    · obtain ⟨k', hk', hg'⟩ := hstill
      exact .inr ⟨⟨k', hk', fun hin => hleft k' hin hg', hg'⟩, hleft⟩
    · have hnone : ∀ k' ∈ mid, guid ∉ k'.ids := fun k' hk' hg' => hstill ⟨k', hk', hg'⟩
      exact .inl ⟨⟨k, hk, fun hin => hnone k hin hg, hg⟩, hnone⟩
  · rintro (⟨⟨k, hk, hgone, hg⟩, hleft⟩ | ⟨⟨k, hk, hgone, hg⟩, hleft⟩)
    · exact ⟨⟨k, hk, fun hin => hgone (hafter hin), hg⟩, fun k' hk' => hleft k' (hafter hk')⟩
    · exact ⟨⟨k, hmid hk, hgone, hg⟩, hleft⟩

end Policy.Key

namespace Tables

/-- Removes the policy of an entry, and the destination if it was the last one to point there. -/
def unlist (t : Tables) (e : Entry) : Tables :=
  (t.removePolicy e.row).2.dropUnpointed e.destination.id

/-- Strikes out the policy with the key, if there is one. -/
def strike (t : Tables) (k : Policy.Key) : Tables :=
  match t.seek k with
  | some e =>
    if e.row ∈ t.policies then ((t.unlist e).giveUp e.source.id).giveUp e.group.id else t
  | none => t

def strikeAll (t : Tables) (keys : List Policy.Key) : Tables :=
  keys.foldl strike t

variable {size : Nat} {t : Tables} {e : Entry} {k : Policy.Key} {id group : Int} {g : String}

section GiveUp

@[simp] theorem needs_giveUp : (t.giveUp group).Needs id ↔ t.Needs id := by
  simp [Needs]

theorem mem_ranges_giveUp {r : RangeRow} (hr : r ∈ (t.giveUp group).ranges) :
    r ∈ t.ranges ∧ (r.group = group → t.Needs group) := by
  unfold giveUp at hr
  split at hr
  · obtain ⟨hmem, hne⟩ := List.mem_filter.1 hr
    refine ⟨hmem, fun e => ?_⟩
    simp [e] at hne
  · next hcounts =>
    exact ⟨hr, fun _ => by_contra fun hn => hcounts (counts_eq_zero.2 hn)⟩

theorem mem_guids_giveUp (h : Pool size t.slots) {s : Slot} (hs : s ∈ t.slots) :
    g ∈ (t.giveUp s.id).guids ↔ g ∈ t.guids ∧ (s.guid = some g → t.Needs s.id) := by
  unfold giveUp
  split
  · next hcounts =>
    have hn : ¬ t.Needs s.id := counts_eq_zero.1 hcounts
    refine (mem_guids_releaseSlot (t := t.dropRange s.id) h hs).trans ?_
    exact and_congr_right fun _ => ⟨fun hne heq => absurd heq hne, fun himp heq => hn (himp heq)⟩
  · next hcounts =>
    have hn : t.Needs s.id := by_contra fun hn => hcounts (counts_eq_zero.2 hn)
    exact ⟨fun hg => ⟨hg, fun _ => hn⟩, fun hg => hg.1⟩

theorem slot_giveUp (h : Pool size t.slots) {s u : Slot} (hs : s ∈ t.slots) (hu : u ∈ t.slots) :
    u ∈ (t.giveUp s.id).slots ∨
      (u = s ∧ ⟨s.id, none, none⟩ ∈ (t.giveUp s.id).slots) := by
  unfold giveUp
  split
  · by_cases he : u.id = s.id
    · exact .inr ⟨h.eq_of_id hu hs he,
        (mem_fillSlot (t := t.dropRange s.id) h hs).2 (.inr rfl)⟩
    · exact .inl ((mem_fillSlot (t := t.dropRange s.id) h hs).2 (.inl ⟨hu, he⟩))
  · exact .inl hu

end GiveUp

section Unlist

theorem Coherent.unlist (h : t.Coherent size) (e : Entry) : (t.unlist e).Coherent size :=
  (h.removePolicy e.row).dropUnpointed e.destination.id

@[simp] theorem unlist_slots (t : Tables) (e : Entry) : (t.unlist e).slots = t.slots :=
  dropUnpointed_slots _ _

@[simp] theorem unlist_ranges (t : Tables) (e : Entry) : (t.unlist e).ranges = t.ranges :=
  dropUnpointed_ranges _ _

theorem mem_policies_unlist {p : PolicyRow} :
    p ∈ (t.unlist e).policies ↔ p ∈ t.policies ∧ p ≠ e.row := by
  rw [Tables.unlist, dropUnpointed_policies]
  simp [removePolicy]

theorem mem_destinations_unlist {d : DestinationRow} :
    d ∈ (t.unlist e).destinations ↔ d ∈ t.destinations ∧
      (d.id = e.destination.id → ∃ p ∈ (t.unlist e).policies, p.destination = d.id) := by
  rw [Tables.unlist, dropUnpointed_policies]
  generalize hu : (t.removePolicy e.row).2 = u
  have hdest : u.destinations = t.destinations := by rw [← hu]; rfl
  unfold dropUnpointed
  split
  · next hzero =>
    have hnone := countByDestination_eq_zero.1 hzero
    rw [hdest, List.mem_filter]
    apply and_congr_right
    intro _
    constructor
    · intro hne heq
      simp [heq] at hne
    · intro himp
      simp only [ne_eq, decide_not, Bool.not_eq_true', decide_eq_false_iff_not]
      intro heq
      obtain ⟨p, hp, hpd⟩ := himp heq
      exact hnone p hp (hpd.trans heq)
  · next hcount =>
    rw [hdest]
    refine ⟨fun hd => ⟨hd, fun heq => ?_⟩, fun hd => hd.1⟩
    by_contra hnone
    refine hcount (countByDestination_eq_zero.2 fun p hp hpd => hnone ⟨p, hp, ?_⟩)
    rw [hpd, heq]

theorem Sound.pointed_unlist (h : t.Sound size) {d : DestinationRow}
    (hd : d ∈ (t.unlist e).destinations) : ∃ p ∈ (t.unlist e).policies, p.destination = d.id := by
  obtain ⟨hmem, himp⟩ := mem_destinations_unlist.1 hd
  by_cases heq : d.id = e.destination.id
  · exact himp heq
  · obtain ⟨p, hp, hpd⟩ := h.pointed d hmem
    refine ⟨p, mem_policies_unlist.2 ⟨hp, ?_⟩, hpd⟩
    rintro rfl
    exact heq hpd.symm

theorem Sound.needs_unlist (h : t.Sound size) (hj : t.Joins e) (hn : t.Needs id) :
    (t.unlist e).Needs id ∨ id = e.source.id ∨ id = e.group.id := by
  rcases hn with ⟨p, hp, rfl⟩ | ⟨d, hd, rfl⟩
  · by_cases hrow : p = e.row
    · exact .inr (.inl (by rw [hrow]; rfl))
    · exact .inl (.inl ⟨p, mem_policies_unlist.2 ⟨hp, hrow⟩, rfl⟩)
  · by_cases heq : d.id = e.destination.id
    · refine .inr (.inr ?_)
      rw [h.toCoherent.eq_of_id hd hj.destination heq, hj.owner]
    · exact .inl (.inr ⟨d, mem_destinations_unlist.2 ⟨hd, fun e => absurd e heq⟩, rfl⟩)

end Unlist

section Strike

theorem strike_cases (h : t.Coherent size) (k : Policy.Key) :
    (∃ e, t.seek k = some e ∧ e.row ∈ t.policies ∧
      t.strike k = ((t.unlist e).giveUp e.source.id).giveUp e.group.id) ∨
      (k ∉ t.keys ∧ t.strike k = t) := by
  rw [mem_keys h]
  unfold strike
  cases hseek : t.seek k with
  | none => exact .inr ⟨by simp, rfl⟩
  | some e =>
    by_cases hrow : e.row ∈ t.policies
    · exact .inl ⟨e, rfl, hrow, if_pos hrow⟩
    · exact .inr ⟨by simpa using hrow, if_neg hrow⟩

theorem exists_slot_giveUp (h : Pool size t.slots) {s u : Slot} (hs : s ∈ t.slots)
    (hu : u ∈ t.slots) : ∃ v ∈ (t.giveUp s.id).slots, v.id = u.id := by
  rcases slot_giveUp h hs hu with hmem | ⟨rfl, hmem⟩
  · exact ⟨u, hmem, rfl⟩
  · exact ⟨_, hmem, rfl⟩

theorem Coherent.giveUpBoth (h : t.Coherent size) {s u : Slot} (hs : s ∈ t.slots)
    (hu : u ∈ t.slots) : ((t.giveUp s.id).giveUp u.id).Coherent size := by
  obtain ⟨v, hv, hid⟩ := exists_slot_giveUp h.pool hs hu
  rw [← hid]
  exact (h.giveUp hs).giveUp hv

/-- Striking a policy out keeps the tables sound. -/
theorem Sound.strike (h : t.Sound size) (k : Policy.Key) : (t.strike k).Sound size := by
  obtain ⟨e, he, -, hstrike⟩ | ⟨-, hstrike⟩ := strike_cases h.toCoherent k
  · obtain ⟨hj, -⟩ := (seek_eq_some h.toCoherent).1 he
    have hcoherent : ((t.unlist e).giveUp e.source.id).giveUp e.group.id |>.Coherent size :=
      (h.toCoherent.unlist e).giveUpBoth (by simpa using hj.source) (by simpa using hj.group)
    rw [hstrike]
    refine { hcoherent with pointed := ?_, used := ?_ }
    · intro d hd
      simp only [giveUp_destinations] at hd
      simpa using h.pointed_unlist hd
    · intro r hr
      obtain ⟨hr, hgroup⟩ := mem_ranges_giveUp hr
      obtain ⟨hr, hsource⟩ := mem_ranges_giveUp hr
      simp only [needs_giveUp] at hgroup ⊢
      -- a group that was needed is so still, or is one of the ends, whose range went if it is not
      rcases h.needs_unlist hj (h.used r (by simpa using hr)) with hn | heq | heq
      · exact hn
      · exact heq ▸ hsource heq
      · exact heq ▸ hgroup heq
  · rw [hstrike]
    exact h

/-- The entries after a policy was struck out are the entries before, without the one with the
key. -/
theorem entries_strike (h : t.Sound size) (k : Policy.Key) :
    (t.strike k).entries = t.entries.filter (·.key ≠ k) := by
  obtain ⟨e, he, hrow, hstrike⟩ | ⟨hk, hstrike⟩ := strike_cases h.toCoherent k
  · rw [hstrike, entries_giveUp, entries_giveUp, unlist, entries_dropUnpointed,
      entries_removePolicy h.toCoherent he]
  · rw [hstrike, filter_key_ne_of_not_mem hk]

theorem keys_strike (h : t.Sound size) (k : Policy.Key) :
    (t.strike k).keys = t.keys.filter (· ≠ k) := by
  rw [keys, entries_strike h, keys, List.filter_map]
  rfl

theorem needs_iff (h : t.Coherent size)
    (hpointed : ∀ d ∈ t.destinations, ∃ p ∈ t.policies, p.destination = d.id) {s : Slot}
    (hs : s ∈ t.slots) (hg : s.guid = some g) : t.Needs s.id ↔ ∃ k ∈ t.keys, g ∈ k.ids := by
  have hlisted : ∀ p ∈ t.policies, ∃ e, t.Joins e ∧ e.row = p ∧ Tells e e.key ∧ e.key ∈ t.keys := by
    intro p hp
    obtain ⟨e, he⟩ := entry_exists h hp
    obtain ⟨hj, rfl⟩ := (entry_eq_some h).1 he
    exact ⟨e, hj, rfl, hj.tells h hp, List.mem_map.2 ⟨e, (mem_entries h).2 ⟨hj, hp⟩, rfl⟩⟩
  constructor
  · rintro (⟨p, hp, hps⟩ | ⟨d, hd, hdg⟩)
    · obtain ⟨e, hj, rfl, htells, hkey⟩ := hlisted p hp
      have hsource : e.source = s := h.pool.eq_of_id hj.source hs hps
      have hguid : some e.key.source = some g := by rw [← htells.source, hsource, hg]
      exact ⟨e.key, hkey, by simp [Policy.Key.ids, Option.some.inj hguid]⟩
    · obtain ⟨p, hp, hpd⟩ := hpointed d hd
      obtain ⟨e, hj, rfl, htells, hkey⟩ := hlisted p hp
      have hdest : e.destination = d := h.eq_of_id hj.destination hd hpd
      have hgroup : e.group = s := h.pool.eq_of_id hj.group hs (by rw [hj.owner, hdest, hdg])
      have hguid : some e.key.destination = some g := by rw [← htells.group, hgroup, hg]
      exact ⟨e.key, hkey, by simp [Policy.Key.ids, Option.some.inj hguid]⟩
  · rintro ⟨k, hk, hgk⟩
    obtain ⟨e, he, hrow⟩ := (mem_keys h).1 hk
    obtain ⟨hj, htells⟩ := (seek_eq_some h).1 he
    rcases Finset.mem_insert.1 hgk with rfl | hgk
    · have hsource : e.source = s := h.pool.guids _ hj.source _ hs _ htells.source hg
      exact .inl ⟨e.row, hrow, by rw [← hsource]; rfl⟩
    · obtain rfl := Finset.mem_singleton.1 hgk
      have hgroup : e.group = s := h.pool.guids _ hj.group _ hs _ htells.group hg
      exact .inr ⟨e.destination, hj.destination, by rw [← hgroup, hj.owner]⟩

theorem mem_guids_giveUpBoth (h : t.Coherent size) {s u : Slot} (hs : s ∈ t.slots)
    (hu : u ∈ t.slots) : g ∈ ((t.giveUp s.id).giveUp u.id).guids ↔
      g ∈ t.guids ∧ (s.guid = some g → t.Needs s.id) ∧ (u.guid = some g → t.Needs u.id) := by
  have hfirst := mem_guids_giveUp (g := g) h.pool hs
  rcases slot_giveUp h.pool hs hu with hmem | ⟨rfl, hmem⟩
  · rw [mem_guids_giveUp (h.giveUp hs).pool hmem, hfirst, needs_giveUp, and_assoc]
  · -- a policy of a group to itself: the slot is given up twice, the second time in vain
    have hsecond := mem_guids_giveUp (g := g) (h.giveUp hs).pool hmem
    rw [hsecond, hfirst]
    constructor
    · rintro ⟨⟨hg, hn⟩, -⟩
      exact ⟨hg, hn, hn⟩
    · rintro ⟨hg, hn, -⟩
      exact ⟨⟨hg, hn⟩, fun he => nomatch he⟩

theorem mem_guids_giveUpBoth_iff (h : t.Coherent size)
    (hpointed : ∀ d ∈ t.destinations, ∃ p ∈ t.policies, p.destination = d.id) {s u : Slot}
    (hs : s ∈ t.slots) (hu : u ∈ t.slots) (hsource : s.guid = some k.source)
    (hgroup : u.guid = some k.destination) : g ∈ ((t.giveUp s.id).giveUp u.id).guids ↔
      g ∈ t.guids ∧ (g ∈ k.ids → ∃ k' ∈ t.keys, g ∈ k'.ids) := by
  have hneeds : ∀ v ∈ t.slots, v.guid = some g → (t.Needs v.id ↔ ∃ k' ∈ t.keys, g ∈ k'.ids) :=
    fun v hv hg => needs_iff h hpointed hv hg
  rw [mem_guids_giveUpBoth h hs hu]
  apply and_congr_right
  intro _
  constructor
  · rintro ⟨hkeep, hkeep'⟩ hg
    rcases Finset.mem_insert.1 hg with rfl | hg
    · exact (hneeds s hs hsource).1 (hkeep hsource)
    · rw [← Finset.mem_singleton.1 hg] at hgroup
      exact (hneeds u hu hgroup).1 (hkeep' hgroup)
  · intro hnamed
    refine ⟨fun hg => (hneeds s hs hg).2 (hnamed ?_), fun hg => (hneeds u hu hg).2 (hnamed ?_)⟩
    · rw [hsource] at hg
      exact Finset.mem_insert.2 (.inl (Option.some.inj hg).symm)
    · rw [hgroup] at hg
      exact Finset.mem_insert.2 (.inr (Finset.mem_singleton.2 (Option.some.inj hg).symm))

theorem mem_holders_strike (h : t.Sound size) (k : Policy.Key) :
    g ∈ (t.strike k).holders ↔
      g ∈ t.holders ∧ ¬ Policy.Key.Leaves t.keys (t.strike k).keys g := by
  rw [mem_holders, mem_holders]
  obtain ⟨e, he, hrow, hstrike⟩ | ⟨-, hstrike⟩ := strike_cases h.toCoherent k
  · obtain ⟨hj, htells⟩ := (seek_eq_some h.toCoherent).1 he
    have hs : e.source ∈ (t.unlist e).slots := by simpa using hj.source
    have hu : e.group ∈ (t.unlist e).slots := by simpa using hj.group
    have hguids : (t.unlist e).guids = t.guids := by rw [guids, unlist_slots, ← guids]
    have hkeys : (t.strike k).keys = (t.unlist e).keys := by
      rw [hstrike, keys, entries_giveUp, entries_giveUp, ← keys]
    have hlisted : k ∈ t.keys := (mem_keys h.toCoherent).2 ⟨e, he, hrow⟩
    -- the key is the only one that goes
    have hleaves : Policy.Key.Leaves t.keys (t.strike k).keys g ↔
        g ∈ k.ids ∧ ∀ k' ∈ (t.strike k).keys, g ∉ k'.ids := by
      apply and_congr_left
      intro _
      rw [keys_strike h]
      constructor
      · rintro ⟨k', hk', hgone, hg⟩
        have hkey : k' = k := by simpa [hk'] using hgone
        exact hkey ▸ hg
      · intro hg
        exact ⟨k, hlisted, by simp, hg⟩
    rw [hleaves, hkeys, hstrike, mem_guids_giveUpBoth_iff (h.toCoherent.unlist e)
      (fun d hd => h.pointed_unlist hd) hs hu htells.source htells.group, hguids]
    simp only [not_and, not_forall, not_not, exists_prop]
  · rw [hstrike]
    exact (and_iff_left (Policy.Key.not_leaves_self _)).symm

end Strike

section StrikeAll
variable {keys : List Policy.Key}

theorem Sound.strikeAll (h : t.Sound size) (keys : List Policy.Key) :
    (t.strikeAll keys).Sound size := by
  induction keys generalizing t with
  | nil => exact h
  | cons k rest ih => exact ih (h.strike k)

theorem entries_strikeAll (h : t.Sound size) (keys : List Policy.Key) :
    (t.strikeAll keys).entries = t.entries.filter (·.key ∉ keys) := by
  induction keys generalizing t with
  | nil => simp [strikeAll]
  | cons k rest ih =>
    rw [strikeAll, List.foldl_cons, ← strikeAll, ih (h.strike k), entries_strike h,
      List.filter_filter]
    apply List.filter_congr
    intro e _
    simp [Bool.and_comm]

theorem keys_strikeAll (h : t.Sound size) (keys : List Policy.Key) :
    (t.strikeAll keys).keys = t.keys.filter (· ∉ keys) := by
  rw [Tables.keys, entries_strikeAll h, Tables.keys, List.filter_map]
  rfl

/-- By induction on the keys: a guid that loses its slot leaves with one of them. -/
theorem mem_holders_strikeAll (h : t.Sound size) (keys : List Policy.Key) :
    g ∈ (t.strikeAll keys).holders ↔
      g ∈ t.holders ∧ ¬ Policy.Key.Leaves t.keys (t.strikeAll keys).keys g := by
  induction keys generalizing t with
  | nil => exact (and_iff_left (Policy.Key.not_leaves_self _)).symm
  | cons k rest ih =>
    have hfirst : (t.strike k).keys ⊆ t.keys := by
      rw [keys_strike h]
      exact List.filter_sublist.subset
    have hrest : ((t.strike k).strikeAll rest).keys ⊆ (t.strike k).keys := by
      rw [keys_strikeAll (h.strike k)]
      exact List.filter_sublist.subset
    have hboth : Policy.Key.Leaves t.keys ((t.strike k).strikeAll rest).keys g ↔ _ :=
      Policy.Key.leaves_iff_or hfirst hrest
    show g ∈ ((t.strike k).strikeAll rest).holders ↔
      g ∈ t.holders ∧ ¬ Policy.Key.Leaves t.keys ((t.strike k).strikeAll rest).keys g
    rw [ih (h.strike k), mem_holders_strike h, hboth, not_or, and_assoc]

end StrikeAll

end Tables

namespace Store

open Work

variable {size : Nat} {s : Session} {t : Tables}

section Sought
variable (hp : s.plan = []) (h : t.Coherent size) (name : String)
include hp h

theorem soughtAt_lookup (guid : String) :
    (soughtAt name (lookup guid)).on (s.withTables t) =
      (.ok ((t.slotOf guid).map (·.id)), s.withTables t) := by
  rw [soughtAt_on, lookup_withTables hp h]
  cases t.slotOf guid <;> rfl

theorem soughtAt_findDestination (key : DestinationKey) :
    (soughtAt name (findDestination key)).on (s.withTables t) =
      (.ok ((t.findDestination key).map (·.id)), s.withTables t) := by
  rw [soughtAt_on, findDestination_withTables hp h]
  cases t.findDestination key <;> rfl

theorem soughtAt_removePolicy (p : PolicyRow) :
    (soughtAt name (removePolicy p)).on (s.withTables t) =
      if p ∈ t.policies then (.ok (some ()), s.withTables (t.removePolicy p).2)
      else (.ok none, s.withTables t) := by
  rw [soughtAt_on, removePolicy_withTables hp h]
  by_cases hmem : p ∈ t.policies
  · rw [if_pos hmem, if_pos hmem]
  · rw [if_neg hmem, if_neg hmem]
    rfl

end Sought

theorem dropUnpointed_withTables {α : Type} (hp : s.plan = []) (h : t.Coherent size) (id : Int)
    (rest : Work α) :
    (do let left ← staged "counting destination id" (countByDestination id)
        if left = 0 then
          staged "deleting destination" (removeDestination id)
        rest : Work α).on (s.withTables t) = rest.on (s.withTables (t.dropUnpointed id)) := by
  rw [bind_on, staged_on, countByDestination_withTables hp h]
  simp only
  by_cases hzero : t.countByDestination id = 0
  · rw [if_pos hzero, bind_on, staged_on, removeDestination_withTables hp h hzero]
  · rw [if_neg hzero, Tables.dropUnpointed, if_neg hzero]

theorem giveUpBoth_withTables (hp : s.plan = []) (h : t.Coherent size) {u v : Slot}
    (hu : u ∈ t.slots) :
    (do staged "deleting group row" (releaseUnused u.id)
        staged "deleting group row" (releaseUnused v.id) : Work Unit).on (s.withTables t) =
      (.ok (), s.withTables ((t.giveUp u.id).giveUp v.id)) := by
  rw [bind_on, staged_on, releaseUnused_withTables hp h]
  simp only
  rw [staged_on, releaseUnused_withTables hp (h.giveUp hu)]

theorem deletePolicy_withTables (hp : s.plan = []) (h : t.Coherent size) (p : Policy) :
    (deletePolicy p).on (s.withTables t) = (.ok (), s.withTables (t.strike p.key)) := by
  have hseek : t.seek p.key = do
      let source ← t.slotOf p.source.id
      let group ← t.slotOf p.destination.id
      let d ← t.findDestination (destinationKey group.id p.destination)
      return ⟨source, d, group, t.rangeOf group.id⟩ := rfl
  rw [deletePolicy, bind_on, soughtAt_lookup hp h]
  cases hsource : t.slotOf p.source.id with
  | none =>
    have hstrike : t.strike p.key = t := by
      rw [Tables.strike, hseek, hsource]
      rfl
    rw [hstrike]
    rfl
  | some source =>
  simp only [Option.map_some]
  rw [bind_on, soughtAt_lookup hp h]
  cases hgroup : t.slotOf p.destination.id with
  | none =>
    have hstrike : t.strike p.key = t := by
      rw [Tables.strike, hseek, hsource, hgroup]
      rfl
    rw [hstrike]
    rfl
  | some group =>
  simp only [Option.map_some]
  rw [bind_on, soughtAt_findDestination hp h]
  cases hd : t.findDestination (destinationKey group.id p.destination) with
  | none =>
    have hstrike : t.strike p.key = t := by
      rw [Tables.strike, hseek, hsource, hgroup]
      simp only [Option.bind_eq_bind, Option.bind_some, hd, Option.bind_none]
    rw [hstrike]
    rfl
  | some d =>
  have hstrike : t.strike p.key =
      if (⟨source.id, d.id⟩ : PolicyRow) ∈ t.policies then
        ((t.unlist ⟨source, d, group, t.rangeOf group.id⟩).giveUp source.id).giveUp group.id
      else t := by
    rw [Tables.strike, hseek, hsource, hgroup]
    simp only [Option.bind_eq_bind, Option.bind_some, hd]
    rfl
  simp only [Option.map_some]
  rw [bind_on, soughtAt_removePolicy hp h, hstrike]
  by_cases hrow : (⟨source.id, d.id⟩ : PolicyRow) ∈ t.policies
  · rw [if_pos hrow, if_pos hrow]
    have hremoved := h.removePolicy ⟨source.id, d.id⟩
    have hmem : source ∈ t.slots := List.mem_of_find?_eq_some hsource
    refine (dropUnpointed_withTables hp hremoved d.id _).trans ?_
    refine giveUpBoth_withTables hp (hremoved.dropUnpointed d.id) ?_
    rw [Tables.dropUnpointed_slots]
    exact hmem
  · rw [if_neg hrow, if_neg hrow]
    rfl

/-- By induction on the batch: its keys are struck out one after the other. -/
theorem deleteAll_withTables (hp : s.plan = []) (h : t.Sound size) (batch : List Policy) :
    (batch.forM deletePolicy).on (s.withTables t) =
      (.ok (), s.withTables (t.strikeAll (batch.map Policy.key))) := by
  induction batch generalizing t with
  | nil => exact forM_nil_on _ _
  | cons p rest ih =>
    rw [forM_cons_on, deletePolicy_withTables hp h.toCoherent]
    exact ih (h.strike p.key)

theorem delete_withTables (hp : s.plan = []) (hopen : s.closed = false) (h : t.Sound size)
    (batch : List Policy) :
    (delete batch).on (s.withTables t) =
      (.ok (), s.withTables (t.strikeAll (batch.map Policy.key))) := by
  rw [delete, transact_on, Session.withTables_closed, hopen, deleteAll_withTables hp h]
  rfl

end Store

end NetworkPolicy
