import NetworkPolicy.Proofs.Growth
import NetworkPolicy.Proofs.Opening

namespace NetworkPolicy

theorem replaceSlot_append {s r : Slot} {before behind : List Slot}
    (hbefore : ∀ a ∈ before, a.id ≠ s.id) (hid : r.id = s.id) :
    replaceSlot s (before ++ r :: behind) = before ++ s :: behind := by
  induction before with
  | nil => exact if_pos hid
  | cons a rest ih =>
    have ha : a.id ≠ s.id := hbefore a List.mem_cons_self
    rw [List.cons_append, replaceSlot, if_neg ha, List.cons_append,
      ih fun b hb => hbefore b (List.mem_cons_of_mem a hb)]

theorem nodup_eraseDups {α : Type} [BEq α] [LawfulBEq α] (l : List α) : l.eraseDups.Nodup := by
  induction h : l.length using Nat.strong_induction_on generalizing l with
  | _ length ih =>
    cases l with
    | nil => exact List.nodup_nil
    | cons a rest =>
      have hshorter : (rest.filter fun b => !b == a).length < length := by
        rw [← h, List.length_cons]
        exact Nat.lt_succ_of_le (List.length_filter_le _ _)
      rw [List.eraseDups_cons, List.nodup_cons]
      refine ⟨fun ha => ?_, ih _ hshorter _ rfl⟩
      simp at ha

/-- The guids that a batch names, the source of a policy before its destination. -/
def Policy.names (batch : List Policy) : List String :=
  batch.flatMap fun p => [p.source.id, p.destination.id]

namespace Tables

/-- The numbers of the free slots, lowest first. -/
def vacancies (t : Tables) : List Int :=
  (t.slots.filter (·.guid = none)).map (·.id)

def numberOf (t : Tables) (guid : String) : Option Int :=
  (t.slotOf guid).map (·.id)

/-- The names that hold no slot, each once, in the order in which they come first. -/
def newcomers (t : Tables) (names : List String) : List String :=
  (names.filter (· ∉ t.guids)).eraseDups

/-- The second tables are the first ones after free slots were given, from the lowest on, to those
of the names that held none. -/
structure AllotsTo (t : Tables) (names : List String) (t' : Tables) : Prop where
  held : ∀ guid s, t.slotOf guid = some s → t'.slotOf guid = some s
  guids : ∀ guid, guid ∈ t'.guids ↔ guid ∈ t.guids ∨ guid ∈ names
  vacancies : ∃ taken, t.vacancies = taken ++ t'.vacancies ∧
    (t.newcomers names).map t'.numberOf = taken.map some

variable {size : Nat} {t t' t'' : Tables} {id : Int} {guid type : String} {names more : List String}

theorem head?_vacancies (t : Tables) : t.vacancies.head? = t.freeSlot.map (·.id) := by
  rw [vacancies, List.head?_map, List.head?_filter, freeSlot]

theorem vacancies_ascending (h : Pool size t.slots) : t.vacancies.Pairwise (· < ·) := by
  rw [vacancies, List.pairwise_map]
  exact h.ascending.sublist List.filter_sublist

theorem claimed_iff_not_vacant (h : Pool size t.slots) :
    Claimed t.slots id ↔ id ∈ t.slots.map (·.id) ∧ id ∉ t.vacancies := by
  constructor
  · rintro ⟨s, hs, rfl, hheld⟩
    refine ⟨List.mem_map.2 ⟨s, hs, rfl⟩, fun hvacant => ?_⟩
    obtain ⟨r, hr, hid⟩ := List.mem_map.1 hvacant
    obtain ⟨hr, hfree⟩ := List.mem_filter.1 hr
    rw [h.eq_of_id hr hs hid] at hfree
    simp [of_decide_eq_true hfree] at hheld
  · rintro ⟨hmem, hheld⟩
    obtain ⟨s, hs, rfl⟩ := List.mem_map.1 hmem
    refine ⟨s, hs, rfl, Option.isSome_iff_ne_none.2 fun hfree => hheld ?_⟩
    exact List.mem_map.2 ⟨s, List.mem_filter.2 ⟨hs, decide_eq_true hfree⟩, rfl⟩

theorem length_vacancies (h : t.Coherent size) :
    t.vacancies.length + t.holders.card = size := by
  have hheld : t.guids.length =
      t.slots.countP fun s => decide ¬ decide (s.guid = none) = true := by
    rw [guids, List.length_filterMap_eq_countP]
    exact List.countP_congr fun s _ => by cases s.guid <;> simp
  rw [vacancies, List.length_map, ← List.countP_eq_length_filter, card_holders h, hheld,
    ← h.pool.length_eq]
  exact (List.length_eq_countP_add_countP _).symm

theorem vacancies_giveSlot (h : Pool size t.slots) {s : Slot} (hs : t.freeSlot = some s) :
    t.vacancies = s.id :: (t.fillSlot s.id (some guid) (some type)).vacancies := by
  obtain ⟨hfree, before, behind, hslots, hheld⟩ := List.find?_eq_some_iff_append.1 hs
  have hbefore : ∀ a ∈ before, a.id ≠ s.id := by
    intro a ha hid
    have hmem : a ∈ t.slots := by simp [hslots, ha]
    have hsame : a = s := h.eq_of_id hmem (by simp [hslots]) hid
    have hnot := hheld a ha
    rw [hsame, hfree] at hnot
    cases hnot
  have hnone : before.filter (fun a => decide (a.guid = none)) = [] :=
    List.filter_eq_nil_iff.2 fun a ha => by simpa using hheld a ha
  have hfilled : (t.fillSlot s.id (some guid) (some type)).slots =
      before ++ ⟨s.id, some guid, some type⟩ :: behind := by
    rw [fillSlot, hslots]
    exact replaceSlot_append hbefore rfl
  rw [vacancies, vacancies, hfilled, hslots, List.filter_append, List.filter_append, hnone]
  simp [of_decide_eq_true hfree]

section Newcomers

theorem nodup_newcomers (t : Tables) (names : List String) : (t.newcomers names).Nodup :=
  nodup_eraseDups _

theorem mem_newcomers : guid ∈ t.newcomers names ↔ guid ∈ names ∧ guid ∉ t.guids := by
  simp [newcomers]

theorem toFinset_names (batch : List Policy) :
    (Policy.names batch).toFinset = Policy.allIds batch := by
  ext g
  simp [Policy.names, mem_allIds, Policy.Key.ids, Policy.key]

theorem length_newcomers (t : Tables) (batch : List Policy) :
    (t.newcomers (Policy.names batch)).length + t.holders.card =
      (t.holders ∪ Policy.allIds batch).card := by
  have hnew : (t.newcomers (Policy.names batch)).toFinset = Policy.allIds batch \ t.holders := by
    ext g
    rw [List.mem_toFinset, mem_newcomers, Finset.mem_sdiff, ← toFinset_names, List.mem_toFinset,
      mem_holders]
  rw [← List.toFinset_card_of_nodup (t.nodup_newcomers _), hnew, Finset.card_sdiff_add_card,
    Finset.union_comm]

theorem newcomers_append (hguids : ∀ guid, guid ∈ t'.guids ↔ guid ∈ t.guids ∨ guid ∈ names) :
    t.newcomers (names ++ more) = t.newcomers names ++ t'.newcomers more := by
  have hlater : (more.filter (· ∉ t.guids)).removeAll (names.filter (· ∉ t.guids)) =
      more.filter (· ∉ t'.guids) := by
    rw [List.removeAll, List.filter_filter]
    refine List.filter_congr fun g _ => ?_
    by_cases hheld : g ∈ t.guids <;> simp [hguids g, hheld]
  rw [newcomers, List.filter_append, List.eraseDups_append, hlater]
  rfl

end Newcomers

namespace AllotsTo

theorem of_slots (hslots : t'.slots = t.slots) : t.AllotsTo [] t' where
  held guid s hs := by rwa [slotOf, hslots]
  guids guid := by simp [Tables.guids, hslots]
  vacancies := ⟨[], by simp [Tables.vacancies, hslots], rfl⟩

theorem numberOf_eq (h : t.AllotsTo names t') (hg : guid ∈ t.guids) :
    t'.numberOf guid = t.numberOf guid := by
  cases hs : t.slotOf guid with
  | none => exact absurd hg (slotOf_eq_none.1 hs)
  | some s => rw [numberOf, numberOf, hs, h.held guid s hs]

theorem trans (h : t.AllotsTo names t') (h' : t'.AllotsTo more t'') :
    t.AllotsTo (names ++ more) t'' where
  held guid s hs := h'.held guid s (h.held guid s hs)
  guids guid := by rw [h'.guids, h.guids, List.mem_append, or_assoc]
  vacancies := by
    obtain ⟨taken, hfree, hnumbers⟩ := h.vacancies
    obtain ⟨taken', hfree', hnumbers'⟩ := h'.vacancies
    have hkept : (t.newcomers names).map t''.numberOf = (t.newcomers names).map t'.numberOf :=
      List.map_congr_left fun g hg => h'.numberOf_eq ((h.guids g).2 (.inr (mem_newcomers.1 hg).1))
    refine ⟨taken ++ taken', by rw [hfree, hfree', List.append_assoc], ?_⟩
    rw [newcomers_append h.guids, List.map_append, hkept, hnumbers, hnumbers', List.map_append]

/-- A newcomer gets the slot that stands among the free ones where it stands among the newcomers. -/
theorem numberOf_newcomer (h : t.AllotsTo names t') {i : Nat}
    (hi : (t.newcomers names)[i]? = some guid) :
    ∃ id, t.vacancies[i]? = some id ∧ t'.numberOf guid = some id := by
  obtain ⟨taken, hfree, hnumbers⟩ := h.vacancies
  have hith := congrArg (·[i]?) hnumbers
  simp only [List.getElem?_map, hi, Option.map_some] at hith
  obtain ⟨id, hid, hnumber⟩ := Option.map_eq_some_iff.1 hith.symm
  exact ⟨id, by rw [hfree, List.getElem?_append_left (List.getElem?_eq_some_iff.1 hid).1, hid],
    hnumber.symm⟩

theorem vacancies_eq_drop (h : t.AllotsTo names t') :
    t'.vacancies = t.vacancies.drop (t.newcomers names).length := by
  obtain ⟨taken, hfree, hnumbers⟩ := h.vacancies
  have hlength : (t.newcomers names).length = taken.length := by
    simpa using congrArg List.length hnumbers
  rw [hfree, hlength, List.drop_left]

end AllotsTo

theorem allotsTo_claim (h : t.Coherent size) (ht : type.isEmpty = false)
    (hc : t.claim guid type = some (id, t')) : t.AllotsTo [guid] t' where
  held g s hs := slotOf_claim_of_some h hc ht hs
  guids g := by rw [mem_guids_claim h hc, List.mem_singleton]
  vacancies := by
    obtain ⟨s, hs, -, rfl⟩ | ⟨s, hg, hs, -, rfl⟩ := claim_cases hc
    · have hheld : guid ∈ t'.guids := mem_guids.2 ⟨s, (slotOf_eq_some h.pool).1 hs⟩
      exact ⟨[], rfl, by simp [newcomers, hheld]⟩
    · have hnew : t.newcomers [guid] = [guid] := by simp [newcomers, hg, List.eraseDups_cons]
      refine ⟨[s.id], vacancies_giveSlot h.pool hs, ?_⟩
      simp [hnew, numberOf, slotOf_giveSlot h hs hg ht]

theorem allotsTo_enter (h : t.Sound size) {p : Policy} (he : t.enter p = some t') :
    t.AllotsTo [p.source.id, p.destination.id] t' := by
  obtain ⟨source, t₁, group, t₂, hsource, hgroup, rfl⟩ := enter_cases he
  have hs := typeOrDefault_isEmpty p.source.type
  have h₁ := h.claim hs hsource
  exact ((allotsTo_claim h.toCoherent hs hsource).trans
    (allotsTo_claim h₁.toCoherent (typeOrDefault_isEmpty _) hgroup)).trans (.of_slots point_slots)

/-- By induction on the batch: its guids are given slots in the order in which it names them. -/
theorem allotsTo_enterAll (h : t.Sound size) {batch : List Policy}
    (he : t.enterAll batch = some t') : t.AllotsTo (Policy.names batch) t' := by
  induction batch generalizing t with
  | nil =>
    cases he
    exact .of_slots rfl
  | cons p rest ih =>
    rw [Tables.enterAll, List.foldlM_cons] at he
    obtain ⟨t₁, he₁, hrest⟩ := Option.bind_eq_some_iff.1 he
    exact (allotsTo_enter h he₁).trans (ih (h.enter he₁) hrest)

theorem vacancies_enterAll (h : t.Sound size) {batch : List Policy}
    (he : t.enterAll batch = some t') : t'.vacancies <:+ t.vacancies := by
  obtain ⟨taken, hfree, -⟩ := (allotsTo_enterAll h he).vacancies
  exact ⟨taken, hfree.symm⟩

theorem enterAll_eq_none_iff_newcomers (h : t.Sound size) {batch : List Policy} :
    t.enterAll batch = none ↔
      t.vacancies.length < (t.newcomers (Policy.names batch)).length := by
  have hfree := length_vacancies h.toCoherent
  have hnew := t.length_newcomers batch
  rw [enterAll_eq_none h]
  omega

theorem holders_fresh (size : Nat) : (fresh size).holders = ∅ := by
  rw [holders, guids_fresh, List.toFinset_nil]

theorem vacancies_fresh (size : Nat) :
    (fresh size).vacancies = (List.range size).map fun i : Nat => (i : Int) + 1 := by
  have hfree : (fresh size).slots.filter (·.guid = none) = (fresh size).slots := by
    refine List.filter_eq_self.2 fun s hs => ?_
    rw [slots_fresh] at hs
    obtain ⟨i, -, rfl⟩ := List.mem_map.1 hs
    rfl
  rw [vacancies, hfree]
  exact (sound_fresh size).pool.numbers

theorem freeSlot_enterAll_fresh {batch : List Policy} (he : (fresh size).enterAll batch = some t)
    (hroom : (Policy.allIds batch).card < size) :
    ∃ s, t.freeSlot = some s ∧ s.id = (Policy.allIds batch).card + 1 := by
  obtain ⟨ht, -, hholders⟩ := (sound_fresh size).enterAll he
  have hcard : t.holders.card = (Policy.allIds batch).card := by
    rw [hholders, holders_fresh, Finset.empty_union]
  have hlength := length_vacancies ht.toCoherent
  have hsuffix := vacancies_enterAll (sound_fresh size) he
  rw [vacancies_fresh, List.suffix_iff_eq_drop, List.length_map, List.length_range] at hsuffix
  have htaken : size - t.vacancies.length = (Policy.allIds batch).card := by omega
  have hhead := head?_vacancies t
  rw [hsuffix, htaken, List.head?_drop, List.getElem?_map, List.getElem?_range hroom] at hhead
  obtain ⟨s, hs, hid⟩ := Option.map_eq_some_iff.1 hhead.symm
  exact ⟨s, hs, hid⟩

/-- Of two upper ends of the same free slots, the holders tell which it is. -/
theorem vacancies_eq_of_holders {u : Tables} (ht : t.Coherent size) (hu : u.Coherent size)
    {free : List Int} (htfree : t.vacancies <:+ free) (hufree : u.vacancies <:+ free)
    (hholders : t.holders = u.holders) : t.vacancies = u.vacancies := by
  have htlength := length_vacancies ht
  have hulength := length_vacancies hu
  rw [hholders] at htlength
  have hlength : t.vacancies.length = u.vacancies.length := by omega
  exact (List.suffix_of_suffix_length_le htfree hufree hlength.le).eq_of_length hlength

end Tables

end NetworkPolicy
