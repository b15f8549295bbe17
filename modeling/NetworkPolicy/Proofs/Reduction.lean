import NetworkPolicy.Proofs.Striking

namespace NetworkPolicy

def Slot.emptied (s : Slot) : Slot :=
  ⟨s.id, none, none⟩

theorem eq_filter_of_sublist {α : Type} {p : α → Bool} {l l' : List α} (hl : l.Nodup)
    (hsub : l'.Sublist l) (hmem : ∀ a ∈ l, a ∈ l' ↔ p a = true) : l' = l.filter p := by
  induction hsub with
  | slnil => rfl
  | cons a hsub ih =>
    obtain ⟨hnot, hrest⟩ := List.nodup_cons.1 hl
    have hout := mt (hmem a List.mem_cons_self).2 fun ha => hnot (hsub.subset ha)
    rw [List.filter_cons_of_neg hout]
    exact ih hrest fun b hb => hmem b (List.mem_cons_of_mem a hb)
  | cons_cons a hsub ih =>
    obtain ⟨hnot, hrest⟩ := List.nodup_cons.1 hl
    rw [List.filter_cons_of_pos ((hmem a List.mem_cons_self).1 List.mem_cons_self)]
    refine congrArg (a :: ·) (ih hrest fun b hb => ?_)
    have hne : b ≠ a := ne_of_mem_of_not_mem hb hnot
    rw [← hmem b (List.mem_cons_of_mem a hb), List.mem_cons, or_iff_right hne]

theorem replaceSlot_eq_map {s : Slot} {slots : List Slot} (hn : (slots.map (·.id)).Nodup) :
    replaceSlot s slots = slots.map fun r => if r.id = s.id then s else r := by
  induction slots with
  | nil => rfl
  | cons a rest ih =>
    obtain ⟨hnot, hrest⟩ := List.nodup_cons.1 hn
    rw [replaceSlot, List.map_cons]
    split
    · next h =>
      have hsame : ∀ r ∈ rest, (if r.id = s.id then s else r) = r := fun r hr =>
        if_neg fun e => hnot (List.mem_map.2 ⟨r, hr, e.trans h.symm⟩)
      rw [List.map_congr_left hsame, List.map_id'']
      exact fun _ => rfl
    · rw [ih hrest]

namespace Tables

instance (t : Tables) (group : Int) : Decidable (t.Needs group) :=
  inferInstanceAs (Decidable (_ ∨ _))

/-- A policy names the guid. -/
def Names (t : Tables) (guid : String) : Prop :=
  ∃ k ∈ t.keys, guid ∈ k.ids

instance (t : Tables) (guid : String) : Decidable (t.Names guid) :=
  inferInstanceAs (Decidable (∃ k ∈ t.keys, guid ∈ k.ids))

def held (t : Tables) : List Slot :=
  t.slots.filter (·.guid.isSome)

/-- What becomes of a slot when of the first tables the second are left. -/
def leave (t t' : Tables) (s : Slot) : Slot :=
  if t.Needs s.id ∧ ¬ t'.Needs s.id then s.emptied else s

/-- The second tables are what the first come to when only the policies of the second are left. -/
structure ReducesTo (t t' : Tables) : Prop where
  schema : t'.schema = t.schema
  policies : t'.policies ⊆ t.policies
  destinations : t'.destinations =
    t.destinations.filter fun d => ∃ p ∈ t'.policies, p.destination = d.id
  ranges : t'.ranges = t.ranges.filter fun r => t'.Needs r.group
  slots : t'.slots = t.slots.map (t.leave t')
  lastDestination : t'.lastDestination = t.lastDestination

variable {size : Nat} {t t' t'' : Tables} {e : Entry} {k : Policy.Key} {id group : Int}

namespace ReducesTo

theorem refl (h : t.Sound size) : t.ReducesTo t where
  schema := rfl
  policies := List.Subset.refl _
  destinations := (List.filter_eq_self.2 fun d hd => by simpa using h.pointed d hd).symm
  ranges := (List.filter_eq_self.2 fun r hr => by simpa using h.used r hr).symm
  slots := by
    have hsame : ∀ s ∈ t.slots, t.leave t s = s := fun s _ =>
      if_neg fun hboth => hboth.2 hboth.1
    rw [List.map_congr_left hsame, List.map_id'']
    exact fun _ => rfl
  lastDestination := rfl

theorem needs (h : t.ReducesTo t') (hn : t'.Needs id) : t.Needs id := by
  rcases hn with ⟨p, hp, hps⟩ | ⟨d, hd, hdg⟩
  · exact .inl ⟨p, h.policies hp, hps⟩
  · rw [h.destinations] at hd
    exact .inr ⟨d, (List.mem_filter.1 hd).1, hdg⟩

theorem trans (h : t.ReducesTo t') (h' : t'.ReducesTo t'') : t.ReducesTo t'' where
  schema := h'.schema.trans h.schema
  policies := List.Subset.trans h'.policies h.policies
  destinations := by
    rw [h'.destinations, h.destinations, List.filter_filter]
    apply List.filter_congr
    intro d _
    have himp : (∃ p ∈ t''.policies, p.destination = d.id) →
        ∃ p ∈ t'.policies, p.destination = d.id := fun ⟨p, hp, hpd⟩ => ⟨p, h'.policies hp, hpd⟩
    simpa using himp
  ranges := by
    rw [h'.ranges, h.ranges, List.filter_filter]
    apply List.filter_congr
    intro r _
    have himp : t''.Needs r.group → t'.Needs r.group := h'.needs
    simpa using himp
  slots := by
    rw [h'.slots, h.slots, List.map_map]
    apply List.map_congr_left
    intro s _
    -- a slot that was emptied first is of a group that is needed neither then nor later
    by_cases hn : t.Needs s.id
    · by_cases hn' : t'.Needs s.id
      · simp [leave, hn, hn']
      · have hn'' : ¬ t''.Needs s.id := mt h'.needs hn'
        simp [leave, hn, hn', hn'', Slot.emptied]
    · have hn' : ¬ t'.Needs s.id := mt h.needs hn
      simp [leave, hn, hn']
  lastDestination := h'.lastDestination.trans h.lastDestination

/-- The policies that are left tell all that is left. -/
theorem unique (h : t.ReducesTo t') (h' : t.ReducesTo t'') (hp : t'.policies = t''.policies) :
    t' = t'' := by
  have hd : t'.destinations = t''.destinations := by rw [h.destinations, h'.destinations, hp]
  have hn : ∀ id, t'.Needs id ↔ t''.Needs id := fun id => by rw [Needs, Needs, hp, hd]
  have hr : t'.ranges = t''.ranges := by
    rw [h.ranges, h'.ranges]
    simp only [hn]
  have hs : t'.slots = t''.slots := by
    rw [h.slots, h'.slots]
    exact List.map_congr_left fun s _ => by simp only [leave, hn]
  have hschema := h.schema.trans h'.schema.symm
  have hlast := h.lastDestination.trans h'.lastDestination.symm
  cases t'
  cases t''
  simp_all

theorem held (h : t.ReducesTo t') :
    t'.held = t.held.filter fun s => t.Needs s.id → t'.Needs s.id := by
  have hheld : ∀ s ∈ t.slots, (t.leave t' s).guid.isSome =
      (decide (t.Needs s.id → t'.Needs s.id) && s.guid.isSome) := by
    intro s _
    by_cases hn : t.Needs s.id <;> by_cases hn' : t'.Needs s.id <;>
      simp [leave, hn, hn', Slot.emptied]
  have hsame : ∀ s ∈ t.slots.filter fun s =>
      decide (t.Needs s.id → t'.Needs s.id) && s.guid.isSome, t.leave t' s = s := by
    intro s hs
    obtain ⟨hkept, -⟩ := Bool.and_eq_true_iff.1 (List.mem_filter.1 hs).2
    exact if_neg fun hboth => hboth.2 (of_decide_eq_true hkept hboth.1)
  calc t'.held = (t.slots.map (t.leave t')).filter (·.guid.isSome) := by rw [Tables.held, h.slots]
    _ = (t.slots.filter fun s => decide (t.Needs s.id → t'.Needs s.id) && s.guid.isSome).map
        (t.leave t') := by
      rw [List.filter_map]
      exact congrArg (List.map (t.leave t')) (List.filter_congr hheld)
    _ = t.slots.filter fun s => decide (t.Needs s.id → t'.Needs s.id) && s.guid.isSome := by
      rw [List.map_congr_left hsame, List.map_id'']
      exact fun _ => rfl
    _ = t.held.filter fun s => t.Needs s.id → t'.Needs s.id := List.filter_filter.symm

end ReducesTo

section GiveUp

@[simp] theorem giveUp_schema (t : Tables) (group : Int) : (t.giveUp group).schema = t.schema := by
  unfold giveUp
  split <;> rfl

@[simp] theorem giveUp_lastDestination (t : Tables) (group : Int) :
    (t.giveUp group).lastDestination = t.lastDestination := by
  unfold giveUp
  split <;> rfl

@[simp] theorem unlist_schema (t : Tables) (e : Entry) : (t.unlist e).schema = t.schema := by
  unfold unlist dropUnpointed
  split <;> rfl

@[simp] theorem unlist_lastDestination (t : Tables) (e : Entry) :
    (t.unlist e).lastDestination = t.lastDestination := by
  unfold unlist dropUnpointed
  split <;> rfl

theorem slots_giveUp (h : Pool size t.slots) : (t.giveUp group).slots =
    t.slots.map fun s => if s.id = group ∧ ¬ t.Needs group then s.emptied else s := by
  unfold giveUp
  split
  · next hcounts =>
    have hn : ¬ t.Needs group := counts_eq_zero.1 hcounts
    refine (replaceSlot_eq_map h.nodup_numbers).trans (List.map_congr_left fun s _ => ?_)
    by_cases hid : s.id = group
    · simp [hid, hn, Slot.emptied]
    · simp [hid]
  · next hcounts =>
    have hn : t.Needs group := by_contra fun hn => hcounts (counts_eq_zero.2 hn)
    have hsame : ∀ s ∈ t.slots, (if s.id = group ∧ ¬ t.Needs group then s.emptied else s) = s :=
      fun s _ => if_neg fun hboth => hboth.2 hn
    rw [List.map_congr_left hsame, List.map_id'']
    exact fun _ => rfl

theorem slots_giveUpBoth (h : t.Coherent size) {s : Slot} (hs : s ∈ t.slots) :
    ((t.giveUp s.id).giveUp group).slots = t.slots.map fun r =>
      if (r.id = s.id ∨ r.id = group) ∧ ¬ t.Needs r.id then r.emptied else r := by
  rw [slots_giveUp (h.giveUp hs).pool, slots_giveUp h.pool, List.map_map]
  refine List.map_congr_left fun r _ => ?_
  simp only [Function.comp_apply, needs_giveUp]
  by_cases hid : r.id = s.id
  · by_cases hn : t.Needs s.id
    · by_cases hgroup : s.id = group <;> simp_all
    · simp [hid, hn, Slot.emptied]
  · by_cases hgroup : r.id = group
    · simp [← hgroup, hid]
    · simp [hid, hgroup]

theorem ranges_giveUp :
    (t.giveUp group).ranges = t.ranges.filter fun r => r.group = group → t.Needs group := by
  unfold giveUp
  split
  · next hcounts =>
    have hn : ¬ t.Needs group := counts_eq_zero.1 hcounts
    exact List.filter_congr fun r _ => by simp [hn]
  · next hcounts =>
    have hn : t.Needs group := by_contra fun hn => hcounts (counts_eq_zero.2 hn)
    exact (List.filter_eq_self.2 fun r _ => by simp [hn]).symm

end GiveUp

theorem Sound.destinations_unlist (h : t.Sound size) (e : Entry) :
    (t.unlist e).destinations =
      t.destinations.filter fun d => ∃ p ∈ (t.unlist e).policies, p.destination = d.id := by
  refine eq_filter_of_sublist h.destinationIds.of_map ?_ fun d hd => ?_
  · rw [Tables.unlist, dropUnpointed]
    split
    · exact List.filter_sublist
    · exact List.Sublist.refl _
  · rw [decide_eq_true_eq]
    exact ⟨h.pointed_unlist, fun hpointed => mem_destinations_unlist.2 ⟨hd, fun _ => hpointed⟩⟩

theorem needs_ends (hj : t.Joins e) (hr : e.row ∈ t.policies) :
    t.Needs e.source.id ∧ t.Needs e.group.id :=
  ⟨.inl ⟨e.row, hr, rfl⟩, .inr ⟨e.destination, hj.destination, hj.owner.symm⟩⟩

/-- Striking a policy out leaves what the other policies need. -/
theorem Sound.reducesTo_strike (h : t.Sound size) (k : Policy.Key) : t.ReducesTo (t.strike k) := by
  obtain ⟨e, he, hrow, hstrike⟩ | ⟨-, hstrike⟩ := strike_cases h.toCoherent k
  · obtain ⟨hj, -⟩ := (seek_eq_some h.toCoherent).1 he
    obtain ⟨hsource, hgroup⟩ := needs_ends hj hrow
    have hs : e.source ∈ (t.unlist e).slots := by simpa using hj.source
    have hends : ∀ id, t.Needs id → ¬ (t.unlist e).Needs id → id = e.source.id ∨ id = e.group.id :=
      fun id hid hn => (h.needs_unlist hj hid).resolve_left hn
    rw [hstrike]
    refine ⟨by simp, ?_, ?_, ?_, ?_, by simp⟩
    · intro p hp
      rw [giveUp_policies, giveUp_policies] at hp
      exact (mem_policies_unlist.1 hp).1
    · simp only [giveUp_destinations, giveUp_policies]
      exact h.destinations_unlist e
    · rw [ranges_giveUp, ranges_giveUp, unlist_ranges, List.filter_filter]
      apply List.filter_congr
      intro r hr
      simp only [needs_giveUp, Bool.and_eq_decide, decide_eq_decide, decide_eq_true_eq]
      constructor
      · rintro ⟨hkept, hkept'⟩
        by_contra hn
        rcases hends r.group (h.used r hr) hn with heq | heq
        · exact hn (heq ▸ hkept' heq)
        · exact hn (heq ▸ hkept heq)
      · exact fun hn => ⟨fun heq => heq ▸ hn, fun heq => heq ▸ hn⟩
    · rw [slots_giveUpBoth (h.toCoherent.unlist e) hs, unlist_slots]
      refine List.map_congr_left fun s _ => ?_
      have hiff : t.Needs s.id ∧ ¬ (t.unlist e).Needs s.id ↔
          (s.id = e.source.id ∨ s.id = e.group.id) ∧ ¬ (t.unlist e).Needs s.id := by
        refine and_congr_left fun hn => ⟨fun hid => hends s.id hid hn, ?_⟩
        rintro (hid | hid)
        · exact hid ▸ hsource
        · exact hid ▸ hgroup
      simp only [leave, needs_giveUp, hiff]
  · rw [hstrike]
    exact .refl h

/-- By induction on the keys: striking policies out leaves what the other policies need. -/
theorem Sound.reducesTo_strikeAll (h : t.Sound size) (keys : List Policy.Key) :
    t.ReducesTo (t.strikeAll keys) := by
  induction keys generalizing t with
  | nil => exact .refl h
  | cons k rest ih => exact (h.reducesTo_strike k).trans (ih (h.strike k))

theorem policies_strikeAll (h : t.Sound size) (keys : List Policy.Key) :
    (t.strikeAll keys).policies = (t.entries.filter (·.key ∉ keys)).map Entry.row := by
  rw [policies_eq_map_row (h.strikeAll keys).toCoherent, entries_strikeAll h]

theorem Sound.needs_iff_names (h : t.Sound size) {s : Slot} (hs : s ∈ t.slots) {g : String}
    (hg : s.guid = some g) : t.Needs s.id ↔ t.Names g :=
  needs_iff h.toCoherent h.pointed hs hg

/-- Where every policy was struck out, nothing is left but the slots of the guids that none of them
named. -/
theorem Sound.strikeAll_keys (h : t.Sound size) {keys : List Policy.Key} (hkeys : t.keys ⊆ keys) :
    (t.strikeAll keys).policies = [] ∧ (t.strikeAll keys).destinations = [] ∧
      (t.strikeAll keys).ranges = [] ∧
      (t.strikeAll keys).held = t.held.filter fun s => ¬ t.Names (s.guid.getD "") := by
  have hreduces := h.reducesTo_strikeAll keys
  have hstruck : ∀ e ∈ t.entries, e.key ∈ keys := fun e he => hkeys (List.mem_map.2 ⟨e, he, rfl⟩)
  have hp : (t.strikeAll keys).policies = [] := by
    rw [policies_strikeAll h, List.filter_eq_nil_iff.2 fun e he => by simpa using hstruck e he]
    rfl
  have hd : (t.strikeAll keys).destinations = [] := by
    rw [hreduces.destinations, hp]
    simp
  have hn : ∀ id, ¬ (t.strikeAll keys).Needs id := by
    intro id
    simp [Needs, hp, hd]
  refine ⟨hp, hd, ?_, ?_⟩
  · rw [hreduces.ranges]
    simp [hn]
  · rw [hreduces.held]
    refine List.filter_congr fun s hs => ?_
    obtain ⟨hmem, hheld⟩ := List.mem_filter.1 hs
    obtain ⟨g, hg⟩ := Option.isSome_iff_exists.1 hheld
    rw [decide_eq_decide, h.needs_iff_names hmem hg, hg, Option.getD_some]
    exact imp_iff_not (hn _)

end Tables

end NetworkPolicy
