import NetworkPolicy.Proofs.Numbers
import NetworkPolicy.Proofs.Requests
import NetworkPolicy.Proofs.Vacancies

namespace NetworkPolicy

def Slot.tag (m : TagLength) (s : Slot) : Tag :=
  ⟨s.guid.getD "", m.format s.id, s.type.getD ""⟩

def Policy.ends (p : Policy) : List Tag :=
  [⟨p.source.id, p.source.tag, p.source.type⟩,
    ⟨p.destination.id, p.destination.tag, p.destination.type⟩]

namespace Tables

/-- The tags of the slots that are held, lowest slot first. -/
def tags (t : Tables) (m : TagLength) : List Tag :=
  t.held.map (Slot.tag m)

variable {size : Nat} {t t' : Tables} {m : TagLength} {e : Entry} {s : Slot} {x : Tag} {id : Int}
  {guid type : String}

theorem mem_held : s ∈ t.held ↔ s ∈ t.slots ∧ s.guid.isSome :=
  List.mem_filter

theorem mem_held_of_slotOf (hs : t.slotOf guid = some s) : s ∈ t.held := by
  have hguid : s.guid = some guid := by simpa using List.find?_some hs
  exact mem_held.2 ⟨List.mem_of_find?_eq_some hs, by rw [hguid]; rfl⟩

theorem guid_of_mem_held (m : TagLength) (hs : s ∈ t.held) : s.guid = some (s.tag m).id := by
  obtain ⟨guid, hguid⟩ := Option.isSome_iff_exists.1 (mem_held.1 hs).2
  rw [Slot.tag, hguid, Option.getD_some]

theorem tagOf?_of_held (hs : s.guid.isSome) : Store.tagOf? m s = some (s.tag m) := by
  obtain ⟨guid, hguid⟩ := Option.isSome_iff_exists.1 hs
  simp [Store.tagOf?, Slot.tag, hguid]

theorem filterMap_tagOf? (t : Tables) (m : TagLength) :
    t.slots.filterMap (Store.tagOf? m) = t.tags m := by
  rw [tags, held, ← List.filterMap_eq_map, List.filterMap_filter]
  refine List.filterMap_congr fun s _ => ?_
  by_cases hs : s.guid.isSome = true
  · rw [if_pos hs]
    exact tagOf?_of_held hs
  · rw [if_neg hs, Store.tagOf?, Option.not_isSome_iff_eq_none.1 hs, Option.map_none]

theorem mem_tags_of_mem_ends (h : t.Coherent size) (he : e ∈ t.entries)
    (hx : x ∈ (e.policy m).ends) : x ∈ t.tags m := by
  obtain ⟨hj, hp⟩ := (mem_entries h).1 he
  have htells := hj.tells h hp
  have hsource : e.source ∈ t.held := mem_held.2 ⟨hj.source, by rw [htells.source]; rfl⟩
  have hgroup : e.group ∈ t.held := mem_held.2 ⟨hj.group, by rw [htells.group]; rfl⟩
  have hends : (e.policy m).ends = [e.source.tag m, e.group.tag m] := rfl
  rw [hends, List.mem_pair] at hx
  rcases hx with rfl | rfl
  · exact List.mem_map.2 ⟨_, hsource, rfl⟩
  · exact List.mem_map.2 ⟨_, hgroup, rfl⟩

theorem exists_number_of_mem_tags (h : Pool size t.slots) (hx : x ∈ t.tags m) :
    ∃ k : Nat, x.tag = m.format k ∧ 1 ≤ k ∧ k ≤ size := by
  obtain ⟨s, hs, rfl⟩ := List.mem_map.1 hx
  obtain ⟨k, hk, hpos, hle⟩ := h.exists_number (mem_held.1 hs).1
  exact ⟨k, congrArg m.format hk, hpos, hle⟩

theorem mem_held_claim (h : t.Coherent size) (ht : type.isEmpty = false)
    (hc : t.claim guid type = some (id, t')) (hs : t'.slotOf guid = some s) {a : Slot} :
    a ∈ t'.held ↔ a ∈ t.held ∨ a = s := by
  obtain ⟨-, -, -, rfl⟩ | ⟨free, hg, hfree, -, rfl⟩ := claim_cases hc
  · constructor
    · exact .inl
    · rintro (ha | rfl)
      · exact ha
      · exact mem_held_of_slotOf hs
  · obtain ⟨hmem, hnone⟩ := freeSlot_eq_some hfree
    have hfilled : (⟨free.id, some guid, some type⟩ : Slot) = s := by
      rw [slotOf_giveSlot h hfree hg ht] at hs
      exact Option.some.inj hs
    rw [mem_held, mem_fillSlot h.pool hmem, mem_held, hfilled]
    constructor
    · rintro ⟨⟨ha, -⟩ | rfl, hheld⟩
      · exact .inl ⟨ha, hheld⟩
      · exact .inr rfl
    · rintro (⟨ha, hheld⟩ | rfl)
      · refine ⟨.inl ⟨ha, fun hid => ?_⟩, hheld⟩
        rw [h.pool.eq_of_id ha hmem hid, hnone] at hheld
        cases hheld
      · rw [← hfilled]
        exact ⟨.inr rfl, rfl⟩

theorem mem_tags_claim (h : t.Coherent size) (ht : type.isEmpty = false)
    (hc : t.claim guid type = some (id, t')) (hs : t'.slotOf guid = some s) :
    x ∈ t'.tags m ↔ x ∈ t.tags m ∨ x = s.tag m := by
  simp only [tags, List.mem_map, mem_held_claim h ht hc hs, or_and_right, exists_or,
    exists_eq_left, @eq_comm _ x (s.tag m)]

theorem claim_of_mem_tags (h : t.Coherent size) (hc : t.claim guid type = some (id, t'))
    (hs : t'.slotOf guid = some s) (hx : x ∈ t.tags m) (hid : x.id = guid) :
    t' = t ∧ s.tag m = x := by
  obtain ⟨a, ha, rfl⟩ := List.mem_map.1 hx
  have hmem : a ∈ t.slots := (mem_held.1 ha).1
  have hguid : a.guid = some guid := hid ▸ guid_of_mem_held m ha
  obtain ⟨-, -, -, rfl⟩ | ⟨-, hg, -⟩ := claim_cases hc
  · obtain ⟨hsmem, hsguid⟩ := (slotOf_eq_some h.pool).1 hs
    rw [h.pool.guids s hsmem a hmem guid hsguid hguid]
    exact ⟨rfl, rfl⟩
  · exact absurd (mem_guids.2 ⟨a, hmem, hguid⟩) hg

section Order
variable {n : TagLength} (h : Pool n.poolSize t.slots)
include h

theorem map_hexNumber?_tags :
    (t.tags m).map (fun x => Text.hexNumber? x.tag) =
      (t.held.map fun s => s.id.toNat).map some := by
  rw [tags, List.map_map, List.map_map]
  refine List.map_congr_left fun s hs => ?_
  obtain ⟨k, hk, -, hle⟩ := h.exists_number (mem_held.1 hs).1
  simp only [Function.comp_apply, Slot.tag, hk, TagLength.hexNumber?_format_of_le hle,
    Int.toNat_natCast]

theorem numbers_held_ascending : (t.held.map fun s => s.id.toNat).Pairwise (· < ·) := by
  rw [List.pairwise_map]
  have hheld : t.held.Pairwise fun a b => a.id < b.id := h.ascending.sublist List.filter_sublist
  refine hheld.imp_of_mem fun ha _ hab => ?_
  obtain ⟨k, hk, -, -⟩ := h.exists_number (mem_held.1 ha).1
  omega

theorem nodup_map_tag_tags : ((t.tags m).map (·.tag)).Nodup := by
  have hslots : (t.held.map fun s => s.id.toNat).Nodup :=
    (numbers_held_ascending h).imp fun hlt => Nat.ne_of_lt hlt
  have hnumbers : (((t.tags m).map (·.tag)).map Text.hexNumber?).Nodup := by
    rw [List.map_map]
    exact map_hexNumber?_tags h ▸ hslots.map (Option.some_injective Nat)
  exact hnumbers.of_map

end Order

theorem nodup_map_id_tags (h : Pool size t.slots) : ((t.tags m).map (·.id)).Nodup := by
  rw [← filterMap_tagOf?, map_id_tags]
  exact nodup_guids h

end Tables

/-- What a store with tags of the given length answers with as a tag. -/
inductive Session.Gives (s : Session) (m : TagLength) : Tag → Prop where
  | all {policies s'} (h : (Store.all m).on s = (.ok policies, s')) {p} (hp : p ∈ policies) {x}
      (hx : x ∈ p.ends) : s.Gives m x
  | byGuids (selection : Selection) {policies s'}
      (h : (Store.byGuids m selection).on s = (.ok policies, s')) {p} (hp : p ∈ policies) {x}
      (hx : x ∈ p.ends) : s.Gives m x
  | tags {tags s'} (h : (Store.tags m).on s = (.ok tags, s')) {x} (hx : x ∈ tags) : s.Gives m x
  | createTag (guid type : String) {x s'}
      (h : (Store.createTag m guid type).on s = (.ok x, s')) : s.Gives m x

namespace Session.Serves

variable {size : Nat} {s s' : Session} {m : TagLength} {x : Tag} {guid type : String}

theorem tags_eq (h : s.Serves size) (m : TagLength) :
    (Store.tags m).on s = (.ok (s.database.tables.tags m), s) := by
  rw [h.tags m, Tables.filterMap_tagOf?]

theorem eq_tags (h : s.Serves size) {tags : List Tag}
    (hlisted : (Store.tags m).on s = (.ok tags, s')) : tags = s.database.tables.tags m := by
  rw [h.tags_eq m] at hlisted
  cases hlisted
  rfl

theorem claimed_of_createTag (h : s.Serves size)
    (hmade : (Store.createTag m guid type).on s = (.ok x, s')) :
    ∃ id t slot, s.database.tables.claim guid (typeOrDefault type) = some (id, t) ∧
      s' = s.withTables t ∧ t.slotOf guid = some slot ∧ x = slot.tag m := by
  have hanswer := h.createTag m guid type
  cases hc : s.database.tables.claim guid (typeOrDefault type) with
  | none =>
    rw [hc, hmade] at hanswer
    cases hanswer
  | some found =>
    rw [hc] at hanswer
    obtain ⟨tag, htag, slot, hslot, htagOf⟩ := hanswer
    rw [hmade] at htag
    cases htag
    rw [Tables.tagOf?_of_held (Tables.mem_held.1 (Tables.mem_held_of_slotOf hslot)).2] at htagOf
    exact ⟨found.1, found.2, slot, rfl, rfl, hslot, (Option.some.inj htagOf).symm⟩

theorem exists_createTag (h : s.Serves size) (m : TagLength) {id : Int} {t : Tables}
    (hc : s.database.tables.claim guid (typeOrDefault type) = some (id, t)) :
    ∃ x, (Store.createTag m guid type).on s = (.ok x, s.withTables t) ∧ x.tag = m.format id := by
  have hanswer := h.createTag m guid type
  rw [hc] at hanswer
  obtain ⟨x, hmade, -⟩ := hanswer
  obtain ⟨_, _, slot, hc', -, hslot, rfl⟩ := h.claimed_of_createTag hmade
  rw [hc] at hc'
  cases hc'
  obtain ⟨_, hslot', rfl⟩ :=
    Tables.slotOf_claim h.sound.toCoherent hc (typeOrDefault_isEmpty type)
  rw [hslot] at hslot'
  cases hslot'
  exact ⟨_, hmade, rfl⟩

theorem mem_tags_of_gives (h : s.Serves size) (hx : s.Gives m x) :
    ∃ t : Tables, t.Coherent size ∧ x ∈ t.tags m := by
  have hs := h.sound.toCoherent
  cases hx with
  | all hall hp hx =>
    rw [h.all m] at hall
    cases hall
    obtain ⟨e, he, rfl⟩ := List.mem_map.1 hp
    exact ⟨_, hs, Tables.mem_tags_of_mem_ends hs he hx⟩
  | byGuids selection hall hp hx =>
    rw [h.byGuids m selection] at hall
    cases hall
    split at hp
    · cases hp
    · obtain ⟨e, he, rfl⟩ := List.mem_map.1 hp
      exact ⟨_, hs, Tables.mem_tags_of_mem_ends hs (List.mem_of_mem_filter he) hx⟩
  | tags htags hx =>
    exact ⟨_, hs, h.eq_tags htags ▸ hx⟩
  | createTag guid type hmade =>
    obtain ⟨id, t, slot, hc, -, hslot, rfl⟩ := h.claimed_of_createTag hmade
    obtain ⟨ht, -, -⟩ := hs.claim (typeOrDefault_isEmpty type) hc
    exact ⟨t, ht, List.mem_map.2 ⟨slot, Tables.mem_held_of_slotOf hslot, rfl⟩⟩

end Session.Serves

/-- Every tag that a store gives is upper-case hex for a slot of the pool of the first opening, and
is not shorter than it is to be. It is as it is to be when the slot is in the pool of the store that
gives it, so always when the first opening was not for longer tags. -/
theorem given_tags_denote_slots (n m : TagLength) (requests : List Request) (x : Tag)
    (hx : (served n requests).Gives m x) :
    ∃ k, Text.hexNumber? x.tag = some k ∧ 1 ≤ k ∧ k ≤ n.poolSize ∧ Text.IsUpperHex x.tag ∧
      2 * m.bytes ≤ x.tag.length ∧ (m.Fits x.tag ↔ k ≤ m.poolSize) ∧
      (n.bytes ≤ m.bytes → m.Fits x.tag) := by
  obtain ⟨t, ht, hmem⟩ := (serves_served n requests).mem_tags_of_gives hx
  obtain ⟨k, hk, hpos, hle⟩ := Tables.exists_number_of_mem_tags ht.pool hmem
  have hfits : m.Fits x.tag ↔ k ≤ m.poolSize := hk ▸ TagLength.fits_format_iff hle hpos
  refine ⟨k, hk ▸ TagLength.hexNumber?_format_of_le hle, hpos, hle, hk ▸ m.isUpperHex_format k, ?_,
    hfits, fun hbytes => ?_⟩
  · rw [hk, m.length_format]
    exact Nat.le_max_left _ _
  · exact hfits.2 (hle.trans (n.poolSize_le hbytes))

/-- The first tag of a new pool. -/
theorem first_tag_denotes_slot :
    ∃ x s', (Store.createTag { bytes := 1 } "a" "").on (served { bytes := 1 } []) = (.ok x, s') ∧
      TagLength.Fits { bytes := 1 } x.tag := by
  have hroom : ((served { bytes := 1 } []).database.tables.claim "a" (typeOrDefault "")).isSome := by
    rw [tables_served]
    decide +kernel
  obtain ⟨found, hc⟩ := Option.isSome_iff_exists.1 hroom
  obtain ⟨x, hmade, -⟩ := (serves_served { bytes := 1 } []).exists_createTag { bytes := 1 } hc
  obtain ⟨k, -, -, -, -, -, -, hfits⟩ :=
    given_tags_denote_slots { bytes := 1 } { bytes := 1 } [] x (.createTag "a" "" hmade)
  exact ⟨x, _, hmade, hfits (Nat.le_refl 1)⟩

/-- As many guids as counted, each with a policy to itself. -/
def crowd (count : Nat) : List Policy :=
  (List.range count).map fun i => {
    source := { id := i.repr }
    destination := { id := i.repr, protocol := "tcp", port := 80 } }

theorem allIds_crowd (count : Nat) :
    Policy.allIds (crowd count) = (Finset.range count).image Nat.repr := by
  ext g
  simp [Tables.mem_allIds, crowd, Policy.key, Policy.Key.ids, eq_comm]

theorem card_allIds_crowd (count : Nat) : (Policy.allIds (crowd count)).card = count := by
  rw [allIds_crowd, Finset.card_image_of_injective _ Text.repr_injective, Finset.card_range]

theorem next_tag_after_crowd {n m : TagLength} (hbytes : m.bytes < n.bytes) :
    ∃ x s', (Store.createTag m m.poolSize.repr "").on
        (served n [.create (crowd m.poolSize), .setUp m.bytes]) = (.ok x, s') ∧
      x.tag = m.format (m.poolSize + 1) ∧ ¬ m.Fits x.tag := by
  have hcard := card_allIds_crowd m.poolSize
  have hroom : m.poolSize < n.poolSize := by
    have hpow := Nat.pow_lt_pow_right (by decide : 1 < 256) hbytes
    have hm := m.poolSize_add_one
    have hn := n.poolSize_add_one
    omega
  cases he : (Tables.fresh n.poolSize).enterAll (crowd m.poolSize) with
  | none =>
    have hfull := (Tables.enterAll_eq_none (Tables.sound_fresh n.poolSize)).1 he
    rw [Tables.holders_fresh, Finset.empty_union, hcard] at hfull
    omega
  | some t =>
    have htables : (served n [.create (crowd m.poolSize), .setUp m.bytes]).database.tables = t := by
      rw [tables_served]
      simp only [List.foldl_cons, List.foldl_nil, Tables.serve, he, Option.getD_some]
    obtain ⟨-, -, hholders⟩ := (Tables.sound_fresh n.poolSize).enterAll he
    have hnew : t.slotOf m.poolSize.repr = none := by
      rw [Tables.slotOf_eq_none, ← Tables.mem_holders, hholders, Tables.holders_fresh,
        Finset.empty_union, allIds_crowd, Text.repr_injective.mem_finset_image, Finset.mem_range]
      exact Nat.lt_irrefl _
    obtain ⟨s, hfree, hid⟩ := Tables.freeSlot_enterAll_fresh he (hcard.trans_lt hroom)
    rw [hcard] at hid
    have hc : t.claim m.poolSize.repr (typeOrDefault "") =
        some (s.id, t.fillSlot s.id (some m.poolSize.repr) (some (typeOrDefault ""))) := by
      rw [Tables.claim, hnew, hfree]
      rfl
    rw [← htables] at hc
    obtain ⟨x, hmade, htag⟩ := (serves_served n _).exists_createTag m hc
    rw [hid] at htag
    have hfits := TagLength.fits_format_iff (m := m) hroom (Nat.le_add_left 1 m.poolSize)
    refine ⟨x, _, hmade, htag, fun hx => ?_⟩
    rw [htag] at hx
    exact Nat.not_succ_le_self m.poolSize (hfits.1 hx)

/-- With two bytes a slot, 255 guids leave the slot whose number is 256, and in tags of one byte
that is a tag of three digits. -/
theorem narrower_store_gives_longer_tag :
    ∃ x, (served { bytes := 2 } [.create (crowd 255), .setUp 1]).Gives { bytes := 1 } x ∧
      x.tag = "100" ∧ ¬ TagLength.Fits { bytes := 1 } x.tag := by
  obtain ⟨x, s', hmade, htag, hfits⟩ :=
    next_tag_after_crowd (n := { bytes := 2 }) (m := { bytes := 1 }) (by decide)
  exact ⟨x, .createTag _ _ hmade, htag.trans (by decide), hfits⟩

/-- The ends of listed policies are among the tags. Tags ascend by slot, and none of their guids and
texts stands twice. To make a tag adds that tag and no other, and for a guid that has one it gives
that one, with its type. -/
theorem tags_agree (n m : TagLength) (requests : List Request) :
    ∃ policies tags,
      (Store.all m).on (served n requests) = (.ok policies, served n requests) ∧
      (Store.tags m).on (served n requests) = (.ok tags, served n requests) ∧
      (∀ p ∈ policies, ∀ x ∈ p.ends, x ∈ tags) ∧
      (∃ slots : List Nat, tags.map (fun x => Text.hexNumber? x.tag) = slots.map some ∧
        slots.Pairwise (· < ·)) ∧
      (tags.map (·.id)).Nodup ∧ (tags.map (·.tag)).Nodup ∧
      ∀ guid type x s', (Store.createTag m guid type).on (served n requests) = (.ok x, s') →
        ∃ tags', (Store.tags m).on s' = (.ok tags', s') ∧ x ∈ tags' ∧ x.id = guid ∧
          (∀ y ∈ tags, y ∈ tags') ∧ (∀ y ∈ tags', y ∈ tags ∨ y = x) ∧
          ∀ y ∈ tags, y.id = guid → tags' = tags ∧ x = y := by
  have h := serves_served n requests
  have hs := h.sound.toCoherent
  refine ⟨_, _, h.all m, h.tags_eq m, ?_, ⟨_, Tables.map_hexNumber?_tags hs.pool,
    Tables.numbers_held_ascending hs.pool⟩, Tables.nodup_map_id_tags hs.pool,
    Tables.nodup_map_tag_tags hs.pool, ?_⟩
  · intro p hp x hx
    obtain ⟨e, he, rfl⟩ := List.mem_map.1 hp
    exact Tables.mem_tags_of_mem_ends hs he hx
  · intro guid type x s' hmade
    obtain ⟨id, t, slot, hc, rfl, hslot, rfl⟩ := h.claimed_of_createTag hmade
    have ht := typeOrDefault_isEmpty type
    have hmem := fun y => Tables.mem_tags_claim (m := m) (x := y) hs ht hc hslot
    refine ⟨_, (h.withTables (h.sound.claim ht hc)).tags_eq m, ?_, ?_, ?_, ?_, ?_⟩
    · exact (hmem _).2 (.inr rfl)
    · have hguid : slot.guid = some guid := by simpa using List.find?_some hslot
      have hid := Tables.guid_of_mem_held m (Tables.mem_held_of_slotOf hslot)
      exact Option.some.inj (hid.symm.trans hguid)
    · exact fun y hy => (hmem y).2 (.inl hy)
    · exact fun y hy => (hmem y).1 hy
    · intro y hy hid
      obtain ⟨rfl, hsame⟩ := Tables.claim_of_mem_tags hs hc hslot hy hid
      exact ⟨rfl, hsame⟩

/-- A tag that is made twice, the second time for another type. -/
theorem tags_agree_when_made_twice :
    let m : TagLength := { bytes := 1 }
    let s := served m [.createTag m "a" "space"]
    ∃ tags s', (Store.tags m).on s = (.ok tags, s) ∧
      (Store.createTag m "a" "app").on s = (.ok ⟨"a", "01", "space"⟩, s') ∧
      (Store.tags m).on s' = (.ok tags, s') := by
  intro m s
  have h : s.Serves m.poolSize := serves_served m _
  have hroom : (s.database.tables.claim "a" (typeOrDefault "app")).isSome ∧
      ⟨"a", "01", "space"⟩ ∈ s.database.tables.tags m := by
    rw [tables_served]
    decide +kernel
  obtain ⟨found, hc⟩ := Option.isSome_iff_exists.1 hroom.1
  obtain ⟨x, hmade, -⟩ := h.exists_createTag m hc
  obtain ⟨-, tags, -, htags, -, -, -, -, hmake⟩ := tags_agree m m [.createTag m "a" "space"]
  obtain ⟨tags', htags', -, -, -, -, hold⟩ := hmake "a" "app" x _ hmade
  obtain ⟨rfl, rfl⟩ := hold ⟨"a", "01", "space"⟩ (h.eq_tags htags ▸ hroom.2) rfl
  exact ⟨_, _, htags, hmade, htags'⟩

end NetworkPolicy
