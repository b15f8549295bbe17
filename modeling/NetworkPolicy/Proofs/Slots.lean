import Mathlib.Data.List.Nodup
import NetworkPolicy.Tables.Rows

namespace NetworkPolicy

theorem find?_eq_some_of_unique {α : Type} {p : α → Bool} {a : α} {l : List α} (ha : a ∈ l)
    (hp : p a = true) (h : ∀ b ∈ l, p b = true → b = a) : l.find? p = some a := by
  obtain ⟨b, hb⟩ := Option.isSome_iff_exists.1 (List.find?_isSome.2 ⟨a, ha, hp⟩)
  rw [hb, h b (List.mem_of_find?_eq_some hb) (List.find?_some hb)]

/-- Slots numbered from one, none lost; no two hold the same guid, and a held slot has a type. -/
structure Pool (size : Nat) (slots : List Slot) : Prop where
  numbers : slots.map (·.id) = (List.range size).map fun i : Nat => (i : Int) + 1
  guids : ∀ a ∈ slots, ∀ b ∈ slots, ∀ guid, a.guid = some guid → b.guid = some guid → a = b
  types : ∀ a ∈ slots, a.guid.isSome → ∃ type, a.type = some type ∧ type.isEmpty = false

/-- The slot with the number is held by a guid. -/
def Claimed (slots : List Slot) (id : Int) : Prop :=
  ∃ s ∈ slots, s.id = id ∧ s.guid.isSome

def Tables.guids (t : Tables) : List String :=
  t.slots.filterMap (·.guid)

def Tables.UsedUp (t : Tables) : Prop :=
  ∀ s ∈ t.slots, s.guid ≠ none

section Replace
variable {s r : Slot} {slots : List Slot}

theorem map_id_replaceSlot (s : Slot) (slots : List Slot) :
    (replaceSlot s slots).map (·.id) = slots.map (·.id) := by
  induction slots with
  | nil => rfl
  | cons r rest ih =>
    rw [replaceSlot]
    split
    · next h => rw [List.map_cons, List.map_cons, h]
    · rw [List.map_cons, List.map_cons, ih]

theorem eq_or_mem_of_mem_replaceSlot (hr : r ∈ replaceSlot s slots) : r = s ∨ r ∈ slots := by
  induction slots with
  | nil => cases hr
  | cons a rest ih =>
    rw [replaceSlot] at hr
    split at hr
    · exact (List.mem_cons.1 hr).imp_right (List.mem_cons_of_mem a)
    · rcases List.mem_cons.1 hr with rfl | hr
      · exact .inr List.mem_cons_self
      · exact (ih hr).imp_right (List.mem_cons_of_mem a)

theorem self_mem_replaceSlot (hold : ∃ old ∈ slots, old.id = s.id) : s ∈ replaceSlot s slots := by
  induction slots with
  | nil =>
    obtain ⟨old, hold, -⟩ := hold
    cases hold
  | cons a rest ih =>
    rw [replaceSlot]
    split
    · exact List.mem_cons_self
    · next hid =>
      obtain ⟨old, hmem, hold⟩ := hold
      rcases List.mem_cons.1 hmem with rfl | hmem
      · exact absurd hold hid
      · exact List.mem_cons_of_mem a (ih ⟨old, hmem, hold⟩)

theorem mem_replaceSlot (hn : (slots.map (·.id)).Nodup) :
    r ∈ replaceSlot s slots ↔
      (r ∈ slots ∧ r.id ≠ s.id) ∨ (r = s ∧ ∃ old ∈ slots, old.id = s.id) := by
  induction slots with
  | nil => simp [replaceSlot]
  | cons a rest ih =>
    have hrest : (rest.map (·.id)).Nodup := (List.nodup_cons.1 hn).2
    -- no later row has the number of the first one
    have ha : ∀ b ∈ rest, b.id ≠ a.id := fun b hb hab =>
      (List.nodup_cons.1 hn).1 (List.mem_map.2 ⟨b, hb, hab⟩)
    rw [replaceSlot]
    split
    · next h =>
      rw [List.mem_cons, List.mem_cons]
      constructor
      · rintro (rfl | hr)
        · exact .inr ⟨rfl, a, List.mem_cons_self, h⟩
        · exact .inl ⟨.inr hr, h ▸ ha r hr⟩
      · rintro (⟨rfl | hr, hne⟩ | ⟨rfl, -⟩)
        · exact absurd h hne
        · exact .inr hr
        · exact .inl rfl
    · next h =>
      rw [List.mem_cons, List.mem_cons, ih hrest]
      constructor
      · rintro (rfl | ⟨hr, hne⟩ | ⟨rfl, old, hold, hid⟩)
        · exact .inl ⟨.inl rfl, h⟩
        · exact .inl ⟨.inr hr, hne⟩
        · exact .inr ⟨rfl, old, List.mem_cons_of_mem _ hold, hid⟩
      · rintro (⟨rfl | hr, hne⟩ | ⟨rfl, old, hold, hid⟩)
        · exact .inl rfl
        · exact .inr (.inl ⟨hr, hne⟩)
        · rcases List.mem_cons.1 hold with rfl | hold
          · exact absurd hid h
          · exact .inr (.inr ⟨rfl, old, hold, hid⟩)

end Replace

namespace Pool

variable {size : Nat} {slots : List Slot}

theorem nodup_numbers (h : Pool size slots) : (slots.map (·.id)).Nodup := by
  rw [h.numbers]
  apply List.nodup_range.map
  intro i j hij
  have hij : (i : Int) + 1 = j + 1 := hij
  omega

theorem nodup (h : Pool size slots) : slots.Nodup :=
  h.nodup_numbers.of_map

theorem length_eq (h : Pool size slots) : slots.length = size := by
  simpa using congrArg List.length h.numbers

theorem exists_number (h : Pool size slots) {s : Slot} (hs : s ∈ slots) :
    ∃ i : Nat, s.id = i ∧ 1 ≤ i ∧ i ≤ size := by
  have hid : s.id ∈ slots.map (·.id) := List.mem_map.2 ⟨s, hs, rfl⟩
  rw [h.numbers] at hid
  obtain ⟨i, hi, hs⟩ := List.mem_map.1 hid
  refine ⟨i + 1, by rw [← hs, Int.natCast_add, Int.natCast_one], Nat.le_add_left 1 i, ?_⟩
  exact List.mem_range.1 hi

theorem ascending (h : Pool size slots) : slots.Pairwise fun a b => a.id < b.id := by
  rw [← List.pairwise_map (f := Slot.id) (R := (· < ·)), h.numbers, List.pairwise_map]
  exact List.pairwise_lt_range.imp fun hij => by omega

theorem eq_of_id (h : Pool size slots) {a b : Slot} (ha : a ∈ slots) (hb : b ∈ slots)
    (hid : a.id = b.id) : a = b :=
  List.inj_on_of_nodup_map h.nodup_numbers ha hb hid

end Pool

namespace Tables

variable {size : Nat} {t : Tables} {s : Slot} {id : Int} {guid : String}

theorem slotAt_eq_some (h : Pool size t.slots) :
    t.slotAt id = some s ↔ s ∈ t.slots ∧ s.id = id := by
  constructor
  · intro hs
    exact ⟨List.mem_of_find?_eq_some hs, by simpa using List.find?_some hs⟩
  · rintro ⟨hs, rfl⟩
    refine find?_eq_some_of_unique hs (by simp) fun b hb hid => h.eq_of_id hb hs ?_
    simpa using hid

theorem slotOf_eq_some (h : Pool size t.slots) :
    t.slotOf guid = some s ↔ s ∈ t.slots ∧ s.guid = some guid := by
  constructor
  · intro hs
    exact ⟨List.mem_of_find?_eq_some hs, by simpa using List.find?_some hs⟩
  · rintro ⟨hs, hg⟩
    apply find?_eq_some_of_unique hs (by simpa using hg)
    intro b hb hbg
    exact h.guids b hb s hs guid (by simpa using hbg) hg

theorem slotOf_eq_none : t.slotOf guid = none ↔ guid ∉ t.guids := by
  simp [slotOf, guids, List.find?_eq_none]

theorem freeSlot_eq_some (hs : t.freeSlot = some s) : s ∈ t.slots ∧ s.guid = none :=
  ⟨List.mem_of_find?_eq_some hs, by simpa using List.find?_some hs⟩

theorem usedUp_iff_freeSlot : t.UsedUp ↔ t.freeSlot = none := by
  simp [UsedUp, freeSlot, List.find?_eq_none]

theorem countFree_eq_zero : t.countFree = 0 ↔ t.UsedUp := by
  simp [UsedUp, countFree, List.countP_eq_zero]

theorem mem_guids : guid ∈ t.guids ↔ ∃ s ∈ t.slots, s.guid = some guid := by
  simp [guids]

theorem claimed_of_slotOf (hs : t.slotOf guid = some s) : Claimed t.slots s.id := by
  have hg : s.guid = some guid := by simpa using List.find?_some hs
  exact ⟨s, List.mem_of_find?_eq_some hs, rfl, by simp [hg]⟩

theorem nodup_guids (h : Pool size t.slots) : t.guids.Nodup := by
  refine List.Pairwise.filterMap _ (R := fun a b => a ∈ t.slots ∧ b ∈ t.slots ∧ a ≠ b) ?_ ?_
  · rintro a b ⟨ha, hb, hab⟩ g hg g' hg' rfl
    exact hab (h.guids a ha b hb g hg hg')
  · exact (List.Pairwise.and_mem.1 h.nodup).imp fun hab => ⟨hab.1, hab.2.1, hab.2.2⟩

theorem length_guids_eq_iff (h : Pool size t.slots) :
    t.guids.length = size ↔ t.freeSlot = none := by
  rw [guids, List.length_filterMap_eq_countP, ← h.length_eq, List.countP_eq_length, freeSlot,
    List.find?_eq_none]
  simp [Option.isSome_iff_ne_none]

theorem length_guids_le (h : Pool size t.slots) : t.guids.length ≤ size := by
  rw [guids, List.length_filterMap_eq_countP, ← h.length_eq]
  exact List.countP_le_length

section Fill
variable {g type : Option String}

theorem mem_fillSlot (h : Pool size t.slots) (hs : s ∈ t.slots) {r : Slot} :
    r ∈ (t.fillSlot s.id g type).slots ↔ (r ∈ t.slots ∧ r.id ≠ s.id) ∨ r = ⟨s.id, g, type⟩ := by
  rw [fillSlot, mem_replaceSlot h.nodup_numbers]
  constructor
  · rintro (hr | ⟨rfl, -⟩)
    · exact .inl hr
    · exact .inr rfl
  · rintro (hr | rfl)
    · exact .inl hr
    · exact .inr ⟨rfl, s, hs, rfl⟩

theorem slotAt_fillSlot_of_ne (hne : id ≠ s.id) :
    (t.fillSlot s.id g type).slotAt id = t.slotAt id := by
  simp only [fillSlot, slotAt]
  induction t.slots with
  | nil => rfl
  | cons a rest ih =>
    rw [replaceSlot]
    split
    · next ha =>
      have ha' : a.id ≠ id := fun e => hne (e ▸ ha)
      rw [List.find?_cons_of_neg (by simpa using hne.symm),
        List.find?_cons_of_neg (by simpa using ha')]
    · rw [List.find?_cons, List.find?_cons, ih]

theorem pool_giveSlot (h : Pool size t.slots) (hs : t.freeSlot = some s) (hg : guid ∉ t.guids)
    {type : String} (ht : type.isEmpty = false) :
    Pool size (t.fillSlot s.id (some guid) (some type)).slots := by
  obtain ⟨hmem, -⟩ := freeSlot_eq_some hs
  have hnew : ∀ a ∈ t.slots, a.guid ≠ some guid := fun a ha e => hg (mem_guids.2 ⟨a, ha, e⟩)
  refine ⟨(map_id_replaceSlot _ _).trans h.numbers, ?_, ?_⟩
  · intro a ha b hb g hag hbg
    rw [mem_fillSlot h hmem] at ha hb
    rcases ha with ⟨ha, -⟩ | rfl <;> rcases hb with ⟨hb, -⟩ | rfl
    · exact h.guids a ha b hb g hag hbg
    · exact absurd (hag.trans hbg.symm) (hnew a ha)
    · exact absurd (hbg.trans hag.symm) (hnew b hb)
    · rfl
  · intro a ha hsome
    rw [mem_fillSlot h hmem] at ha
    rcases ha with ⟨ha, -⟩ | rfl
    · exact h.types a ha hsome
    · exact ⟨type, rfl, ht⟩

theorem pool_releaseSlot (h : Pool size t.slots) (hs : s ∈ t.slots) :
    Pool size (t.releaseSlot s.id).slots := by
  refine ⟨(map_id_replaceSlot _ _).trans h.numbers, ?_, ?_⟩
  · intro a ha b hb g hag hbg
    rw [releaseSlot, mem_fillSlot h hs] at ha hb
    rcases ha with ⟨ha, -⟩ | rfl <;> rcases hb with ⟨hb, -⟩ | rfl
    · exact h.guids a ha b hb g hag hbg
    · cases hbg
    · cases hag
    · cases hag
  · intro a ha hsome
    rw [releaseSlot, mem_fillSlot h hs] at ha
    rcases ha with ⟨ha, -⟩ | rfl
    · exact h.types a ha hsome
    · cases hsome

theorem claimed_giveSlot (h : Pool size t.slots) (hs : t.freeSlot = some s) {type : String} :
    Claimed (t.fillSlot s.id (some guid) (some type)).slots id ↔
      Claimed t.slots id ∨ id = s.id := by
  obtain ⟨hmem, hfree⟩ := freeSlot_eq_some hs
  constructor
  · rintro ⟨r, hr, rfl, hsome⟩
    rw [mem_fillSlot h hmem] at hr
    rcases hr with ⟨hr, -⟩ | rfl
    · exact .inl ⟨r, hr, rfl, hsome⟩
    · exact .inr rfl
  · rintro (⟨r, hr, rfl, hsome⟩ | rfl)
    · refine ⟨r, (mem_fillSlot h hmem).2 (.inl ⟨hr, fun e => ?_⟩), rfl, hsome⟩
      rw [h.eq_of_id hr hmem e, hfree] at hsome
      cases hsome
    · exact ⟨_, (mem_fillSlot h hmem).2 (.inr rfl), rfl, rfl⟩

theorem claimed_releaseSlot (h : Pool size t.slots) (hs : s ∈ t.slots) :
    Claimed (t.releaseSlot s.id).slots id ↔ Claimed t.slots id ∧ id ≠ s.id := by
  constructor
  · rintro ⟨r, hr, rfl, hsome⟩
    rw [releaseSlot, mem_fillSlot h hs] at hr
    rcases hr with ⟨hr, hne⟩ | rfl
    · exact ⟨⟨r, hr, rfl, hsome⟩, hne⟩
    · cases hsome
  · rintro ⟨⟨r, hr, rfl, hsome⟩, hne⟩
    exact ⟨r, (mem_fillSlot h hs).2 (.inl ⟨hr, hne⟩), rfl, hsome⟩

theorem mem_guids_giveSlot (h : Pool size t.slots) (hs : t.freeSlot = some s) {type g : String} :
    g ∈ (t.fillSlot s.id (some guid) (some type)).guids ↔ g ∈ t.guids ∨ g = guid := by
  obtain ⟨hmem, hfree⟩ := freeSlot_eq_some hs
  simp only [mem_guids]
  constructor
  · rintro ⟨r, hr, hg⟩
    rw [mem_fillSlot h hmem] at hr
    rcases hr with ⟨hr, -⟩ | rfl
    · exact .inl ⟨r, hr, hg⟩
    · exact .inr (Option.some.inj hg).symm
  · rintro (⟨r, hr, hg⟩ | rfl)
    · refine ⟨r, (mem_fillSlot h hmem).2 (.inl ⟨hr, fun e => ?_⟩), hg⟩
      rw [h.eq_of_id hr hmem e, hfree] at hg
      cases hg
    · exact ⟨_, (mem_fillSlot h hmem).2 (.inr rfl), rfl⟩

theorem mem_guids_releaseSlot (h : Pool size t.slots) (hs : s ∈ t.slots) {g : String} :
    g ∈ (t.releaseSlot s.id).guids ↔ g ∈ t.guids ∧ s.guid ≠ some g := by
  simp only [mem_guids]
  constructor
  · rintro ⟨r, hr, hg⟩
    rw [releaseSlot, mem_fillSlot h hs] at hr
    rcases hr with ⟨hr, hne⟩ | rfl
    · refine ⟨⟨r, hr, hg⟩, fun e => hne ?_⟩
      rw [h.guids r hr s hs g hg e]
    · cases hg
  · rintro ⟨⟨r, hr, hg⟩, hne⟩
    refine ⟨r, (mem_fillSlot h hs).2 (.inl ⟨hr, fun e => hne ?_⟩), hg⟩
    rw [← h.eq_of_id hr hs e, hg]

end Fill

end Tables

end NetworkPolicy
