import NetworkPolicy.Proofs.Directory
import NetworkPolicy.Proofs.Ranges
import NetworkPolicy.Proofs.Vacancies

namespace NetworkPolicy

/-- A batch that is created or deleted. -/
inductive Change where
  | create (batch : List Policy)
  | delete (batch : List Policy)

namespace Change

def batch : Change → List Policy
  | create batch => batch
  | delete batch => batch

def work : Change → Work Unit
  | create batch => Store.create batch
  | delete batch => Store.delete batch

end Change

namespace Policy

def untagged (p : Policy) : Policy where
  source := { p.source with tag := "" }
  destination := { p.destination with tag := "" }

variable {batch : List Policy} {guid : String} {x : Target}

theorem firstType_eq_none (hg : guid ∉ allIds batch) : firstType batch guid = none := by
  refine List.findSome?_eq_none_iff.2 fun p hp => ?_
  have hids : guid ∉ p.key.ids := fun hin => hg (Tables.mem_allIds.2 ⟨p, hp, hin⟩)
  simp only [Key.ids, key, Finset.mem_insert, Finset.mem_singleton, not_or] at hids
  rw [typeFor, if_neg (Ne.symm hids.1), if_neg (Ne.symm hids.2)]

theorem firstRange_eq_none (hg : guid ∉ allIds batch) : firstRange batch guid = none := by
  refine List.findSome?_eq_none_iff.2 fun p hp => if_neg ?_
  rintro rfl
  exact hg (Tables.mem_allIds.2 ⟨p, hp, by simp [Key.ids, key]⟩)

theorem firstPort_eq_none (hx : x.guid ∉ allIds batch) : firstPort batch x = none := by
  refine List.findSome?_eq_none_iff.2 fun p hp => if_neg ?_
  rintro rfl
  exact hx (Tables.mem_allIds.2 ⟨p, hp, by simp [Key.ids, key, Key.target]⟩)

end Policy

namespace Directory

variable {d : Directory} {struck A B : Finset Policy.Key} {P : Policy.Key → Prop}
  {a b batch : List Policy}

theorem not_loses (hP : ∀ k ∈ struck, ¬ P k) : ¬ d.Loses struck P := by
  rintro ⟨⟨k, hk, hPk⟩, hall⟩
  exact hP k (hall k hk hPk) hPk

theorem loses_create (hP : ∀ p ∈ batch, ¬ P p.key) :
    (d.create batch).Loses struck P ↔ d.Loses struck P := by
  have hkeys : ∀ k, P k → (k ∈ (d.create batch).keys ↔ k ∈ d.keys) := by
    intro k hPk
    rw [create, Finset.mem_union, List.mem_toFinset, or_iff_left]
    intro hk
    obtain ⟨p, hp, rfl⟩ := List.mem_map.1 hk
    exact hP p hp hPk
  constructor
  · rintro ⟨⟨k, hk, hPk⟩, hall⟩
    exact ⟨⟨k, (hkeys k hPk).1 hk, hPk⟩, fun k' hk' hPk' => hall k' ((hkeys k' hPk').2 hk') hPk'⟩
  · rintro ⟨⟨k, hk, hPk⟩, hall⟩
    exact ⟨⟨k, (hkeys k hPk).2 hk, hPk⟩, fun k' hk' hPk' => hall k' ((hkeys k' hPk').1 hk') hPk'⟩

theorem loses_union : d.Loses (A ∪ B) P ↔ d.Loses A P ∨ (d.delete A).Loses B P := by
  simp only [Loses, delete, Finset.mem_union, Finset.mem_sdiff]
  constructor
  · rintro ⟨⟨k, hk, hPk⟩, hall⟩
    by_cases hfirst : ∀ k ∈ d.keys, P k → k ∈ A
    · exact .inl ⟨⟨k, hk, hPk⟩, hfirst⟩
    · push Not at hfirst
      obtain ⟨k', hk', hPk', hkept⟩ := hfirst
      exact .inr ⟨⟨k', ⟨hk', hkept⟩, hPk'⟩,
        fun q hq hPq => (hall q hq.1 hPq).resolve_left hq.2⟩
  · rintro (⟨hsome, hall⟩ | ⟨⟨k, hk, hPk⟩, hall⟩)
    · exact ⟨hsome, fun q hq hPq => .inl (hall q hq hPq)⟩
    · refine ⟨⟨k, hk.1, hPk⟩, fun q hq hPq => ?_⟩
      by_cases hqA : q ∈ A
      · exact .inl hqA
      · exact .inr (hall q ⟨hq, hqA⟩ hPq)

theorem delete_delete (d : Directory) (A B : Finset Policy.Key) :
    (d.delete A).delete B = d.delete (A ∪ B) := by
  have htwice : ∀ {α : Type} (P : Policy.Key → Prop) [DecidablePred P] (o : Option α),
      (if (d.delete A).Loses B P then none else if d.Loses A P then none else o) =
        if d.Loses (A ∪ B) P then none else o := by
    intro α P _ o
    simp only [loses_union]
    by_cases hA : d.Loses A P <;> by_cases hB : (d.delete A).Loses B P <;> simp [hA, hB]
  apply Directory.ext
  · exact sdiff_sdiff_left
  · funext guid
    exact htwice _ _
  · funext guid
    exact htwice _ _
  · funext x
    exact htwice _ _

theorem create_create (d : Directory) (a b : List Policy) :
    (d.create a).create b = d.create (a ++ b) := by
  apply Directory.ext
  · simp only [create, List.map_append, List.toFinset_append, Finset.union_assoc]
  · funext guid
    simp only [create, Policy.firstType, List.findSome?_append, Option.or_assoc]
  · funext guid
    simp only [create, Policy.firstRange, List.findSome?_append, Option.or_assoc]
  · funext x
    simp only [create, Policy.firstPort, List.findSome?_append, Option.or_assoc]

section Disjoint
variable (hdisjoint : Disjoint (Policy.allIds a) (Policy.allIds b))
include hdisjoint

theorem create_append_comm : d.create (a ++ b) = d.create (b ++ a) := by
  have hcomm : ∀ {α : Type} {o o' : Option α}, (o = none ∨ o' = none) → o.or o' = o'.or o := by
    rintro α o o' (rfl | rfl)
    · rw [Option.none_or, Option.or_none]
    · rw [Option.none_or, Option.or_none]
  have hone : ∀ guid, guid ∉ Policy.allIds a ∨ guid ∉ Policy.allIds b := fun guid =>
    not_and_or.1 fun hboth => Finset.disjoint_left.1 hdisjoint hboth.1 hboth.2
  apply Directory.ext
  · simp only [create, List.map_append, List.toFinset_append, Finset.union_comm]
  · funext guid
    simp only [create, Policy.firstType, List.findSome?_append]
    exact congrArg _ (hcomm ((hone guid).imp Policy.firstType_eq_none Policy.firstType_eq_none))
  · funext guid
    simp only [create, Policy.firstRange, List.findSome?_append]
    exact congrArg _ (hcomm ((hone guid).imp Policy.firstRange_eq_none Policy.firstRange_eq_none))
  · funext x
    simp only [create, Policy.firstPort, List.findSome?_append]
    exact congrArg _ (hcomm ((hone x.guid).imp Policy.firstPort_eq_none Policy.firstPort_eq_none))

theorem delete_create : (d.create a).delete (b.map Policy.key).toFinset =
    (d.delete (b.map Policy.key).toFinset).create a := by
  -- for a guid of the first batch no key of the second matters, for any other one the first brings
  -- nothing
  have hswap : ∀ {α : Type} (P : Policy.Key → Prop) [DecidablePred P] (guid : String)
      (o brought : Option α), (∀ k, P k → guid ∈ k.ids) →
      (guid ∉ Policy.allIds a → brought = none) →
      (if (d.create a).Loses (b.map Policy.key).toFinset P then none else o.or brought) =
        (if d.Loses (b.map Policy.key).toFinset P then none else o).or brought := by
    intro α P _ guid o brought hnames hnone
    by_cases hg : guid ∈ Policy.allIds a
    · have hP : ∀ k ∈ (b.map Policy.key).toFinset, ¬ P k := by
        intro k hk hPk
        obtain ⟨p, hp, rfl⟩ := List.mem_map.1 (List.mem_toFinset.1 hk)
        exact Finset.disjoint_left.1 hdisjoint hg (Tables.mem_allIds.2 ⟨p, hp, hnames _ hPk⟩)
      rw [if_neg (not_loses hP), if_neg (not_loses hP)]
    · have hP : ∀ p ∈ a, ¬ P p.key := fun p hp hPk =>
        hg (Tables.mem_allIds.2 ⟨p, hp, hnames _ hPk⟩)
      simp only [hnone hg, Option.or_none, loses_create hP]
  apply Directory.ext
  · ext k
    have hkey : k ∈ a.map Policy.key → k ∉ b.map Policy.key := by
      intro hka hkb
      obtain ⟨p, hp, rfl⟩ := List.mem_map.1 hka
      obtain ⟨q, hq, hqp⟩ := List.mem_map.1 hkb
      have hsource : p.source.id ∈ p.key.ids := by simp [Policy.Key.ids, Policy.key]
      exact Finset.disjoint_left.1 hdisjoint (Tables.mem_allIds.2 ⟨p, hp, hsource⟩)
        (Tables.mem_allIds.2 ⟨q, hq, hqp ▸ hsource⟩)
    simp only [create, delete, Finset.mem_sdiff, Finset.mem_union, List.mem_toFinset]
    tauto
  · funext guid
    exact hswap _ guid _ _ (fun _ hk => hk) Policy.firstType_eq_none
  · funext guid
    exact hswap _ guid _ _ (fun _ hk => hk) Policy.firstRange_eq_none
  · funext x
    refine hswap _ x.guid _ _ ?_ Policy.firstPort_eq_none
    rintro k rfl
    simp [Policy.Key.ids, Policy.Key.target]

end Disjoint

def change (d : Directory) : Change → Directory
  | .create batch => d.create batch
  | .delete batch => d.delete (batch.map Policy.key).toFinset

theorem change_comm (d : Directory) {a b : Change}
    (hdisjoint : Disjoint (Policy.allIds a.batch) (Policy.allIds b.batch)) :
    (d.change a).change b = (d.change b).change a := by
  cases a with
  | create first =>
    cases b with
    | create second =>
      simp only [change, create_create]
      exact create_append_comm hdisjoint
    | delete second => exact delete_create hdisjoint
  | delete first =>
    cases b with
    | create second => exact (delete_create hdisjoint.symm).symm
    | delete second => simp only [change, delete_delete, Finset.union_comm]

/-- The policy with the key as the directory tells it, without tags. -/
def policy (d : Directory) (k : Policy.Key) : Policy where
  source := { id := k.source, type := (d.types k.source).getD "" }
  destination := {
    id := k.destination
    protocol := k.protocol
    port := (d.ports k.target).getD 0
    ports := k.ports
    type := (d.types k.destination).getD ""
    ranges := (d.ranges k.destination).elim [] AddressRange.shown }

end Directory

namespace Tables

variable {size : Nat} {t u : Tables} {e : Entry}

theorem untagged_policy (h : t.Coherent size) (he : e ∈ t.entries) (n : TagLength) :
    (e.policy n).untagged = t.directory.policy e.key := by
  obtain ⟨hj, hr⟩ := (mem_entries h).1 he
  have htells := hj.tells h hr
  have hsource : t.slotOf e.key.source = some e.source :=
    (slotOf_eq_some h.pool).2 ⟨hj.source, htells.source⟩
  have hgroup : t.slotOf e.key.destination = some e.group :=
    (slotOf_eq_some h.pool).2 ⟨hj.group, htells.group⟩
  have hfound : t.findDestination (e.key.target.within e.group.id) = some e.destination :=
    (findDestination_eq_some h).2 ⟨hj.destination, htells.destination⟩
  have hport : t.portOf e.key.target = some e.destination.port.toNat.toUInt16 := by
    rw [portOf, show e.key.target.guid = e.key.destination from rfl, hgroup, Option.bind_some,
      hfound, Option.map_some]
  rw [Directory.policy, show t.directory.types = t.typeOf from rfl, typeOf_of_slotOf hsource,
    typeOf_of_slotOf hgroup, show t.directory.ports = t.portOf from rfl, hport,
    show t.directory.ranges = t.recorded from rfl, ← ranges_of_mem h he]
  rfl

/-- Tables with the same directory list the same policies, but for tags and order. -/
theorem perm_untagged (ht : t.Coherent size) (hu : u.Coherent size)
    (hdirectory : t.directory = u.directory) (n : TagLength) :
    ((t.entries.map (Entry.policy n)).map Policy.untagged).Perm
      ((u.entries.map (Entry.policy n)).map Policy.untagged) := by
  have hlisted : ∀ {t : Tables}, t.Coherent size →
      (t.entries.map (Entry.policy n)).map Policy.untagged = t.keys.map t.directory.policy := by
    intro t h
    rw [List.map_map, keys, List.map_map]
    exact List.map_congr_left fun e he => untagged_policy h he n
  have hkeys : t.keys.Perm u.keys :=
    List.perm_of_nodup_nodup_toFinset_eq (nodup_keys ht) (nodup_keys hu)
      (congrArg Directory.keys hdirectory)
  rw [hlisted ht, hlisted hu, hdirectory]
  exact hkeys.map _

theorem holders_eq_of_directory (ht : t.Coherent size) (hu : u.Coherent size)
    (hdirectory : t.directory = u.directory) : t.holders = u.holders := by
  ext g
  rw [← typeOf_isSome_iff ht, ← typeOf_isSome_iff hu,
    show t.typeOf = u.typeOf from congrArg Directory.types hdirectory]

end Tables

namespace Session.Serves

variable {size : Nat} {s s' : Session} {c : Change}

/-- A change that succeeds does to the directory what it says. -/
theorem of_change (h : s.Serves size) (hdone : c.work.on s = (.ok (), s')) :
    s'.Serves size ∧ s'.database.tables.directory = s.database.tables.directory.change c := by
  cases c with
  | create batch =>
    obtain ⟨t, he, rfl⟩ := h.entered_of_create hdone
    obtain ⟨ht, -, -⟩ := h.sound.enterAll he
    exact ⟨h.withTables ht, Tables.directory_enterAll h.sound he⟩
  | delete batch =>
    have hdeleted := h.delete batch
    rw [show Store.delete batch = (Change.delete batch).work from rfl, hdone] at hdeleted
    obtain rfl : s' = _ := congrArg Prod.snd hdeleted
    exact ⟨h.withTables (h.sound.strikeAll _), Tables.directory_strikeAll h.sound _⟩

end Session.Serves

/-- Two batches that name no guid in common, each created or deleted, lead in either order to the
same policies but for tags and order, to the same ports of targets, and to the same holders of
slots, with the same types and ranges. Two creations also take the same slots. -/
theorem independent_changes_commute (n m : TagLength) (requests : List Request) (a b : Change)
    (hdisjoint : Disjoint (Policy.allIds a.batch) (Policy.allIds b.batch))
    (sa sab sb sba : Session)
    (ha : a.work.on (served n requests) = (.ok (), sa)) (hab : b.work.on sa = (.ok (), sab))
    (hb : b.work.on (served n requests) = (.ok (), sb)) (hba : a.work.on sb = (.ok (), sba)) :
    let t := sab.database.tables
    let u := sba.database.tables
    (∃ listed listed', (Store.all m).on sab = (.ok listed, sab) ∧
      (Store.all m).on sba = (.ok listed', sba) ∧
      (listed.map Policy.untagged).Perm (listed'.map Policy.untagged)) ∧
    (∀ k, k ∈ t.keys ↔ k ∈ u.keys) ∧ (∀ x, t.portOf x = u.portOf x) ∧
    t.holders = u.holders ∧
    (∀ guid, t.typeOf guid = u.typeOf guid ∧ t.recorded guid = u.recorded guid) ∧
    ∀ batch batch', a = .create batch → b = .create batch' →
      ∀ id, Claimed t.slots id ↔ Claimed u.slots id := by
  intro t u
  have h := serves_served n requests
  obtain ⟨hsa, hda⟩ := h.of_change ha
  obtain ⟨hsab, hdab⟩ := hsa.of_change hab
  obtain ⟨hsb, hdb⟩ := h.of_change hb
  obtain ⟨hsba, hdba⟩ := hsb.of_change hba
  have ht : t.Coherent n.poolSize := hsab.sound.toCoherent
  have hu : u.Coherent n.poolSize := hsba.sound.toCoherent
  have hdirectory : t.directory = u.directory := by
    rw [hdab, hdba, hda, hdb]
    exact Directory.change_comm _ hdisjoint
  have hholders := Tables.holders_eq_of_directory ht hu hdirectory
  refine ⟨⟨_, _, hsab.all m, hsba.all m, Tables.perm_untagged ht hu hdirectory m⟩, fun k => ?_,
    congrFun (congrArg Directory.ports hdirectory), hholders, fun guid => ⟨?_, ?_⟩, ?_⟩
  · have hkeys : t.keys.toFinset = u.keys.toFinset := congrArg Directory.keys hdirectory
    rw [← List.mem_toFinset, hkeys, List.mem_toFinset]
  · exact congrFun (congrArg Directory.types hdirectory) guid
  · exact congrFun (congrArg Directory.ranges hdirectory) guid
  · -- both orders leave an upper end of what was free, and as long a one
    rintro batch batch' rfl rfl id
    obtain ⟨t₁, he₁, rfl⟩ := h.entered_of_create ha
    obtain ⟨t₂, he₂, rfl⟩ := hsa.entered_of_create hab
    obtain ⟨u₁, hf₁, rfl⟩ := h.entered_of_create hb
    obtain ⟨u₂, hf₂, rfl⟩ := hsb.entered_of_create hba
    have hvacant := Tables.vacancies_eq_of_holders ht hu
      ((Tables.vacancies_enterAll hsa.sound he₂).trans (Tables.vacancies_enterAll h.sound he₁))
      ((Tables.vacancies_enterAll hsb.sound hf₂).trans (Tables.vacancies_enterAll h.sound hf₁))
      hholders
    rw [Tables.claimed_iff_not_vacant ht.pool, Tables.claimed_iff_not_vacant hu.pool, hvacant,
      ht.pool.numbers, hu.pool.numbers]

def firstPolicy : List Request :=
  [.create [Store.link "a" "b" "tcp" 80]]

/-- When the first policy is deleted beforehand, the ends of the other one take its slots. -/
theorem independent_changes_commute_after_first :
    Disjoint (Policy.allIds [Store.link "c" "d" "udp" 53])
      (Policy.allIds [Store.link "a" "b" "tcp" 80]) ∧
    ∃ sa sab sb sba : Session,
      (Store.create [Store.link "c" "d" "udp" 53]).on (served { bytes := 1 } firstPolicy) =
        (.ok (), sa) ∧
      (Store.delete [Store.link "a" "b" "tcp" 80]).on sa = (.ok (), sab) ∧
      (Store.delete [Store.link "a" "b" "tcp" 80]).on (served { bytes := 1 } firstPolicy) =
        (.ok (), sb) ∧
      (Store.create [Store.link "c" "d" "udp" 53]).on sb = (.ok (), sba) ∧
      sab.database.tables.holders = sba.database.tables.holders ∧
      sab.database.tables.slotOf "c" ≠ sba.database.tables.slotOf "c" := by
  have hdisjoint : Disjoint (Policy.allIds [Store.link "c" "d" "udp" 53])
      (Policy.allIds [Store.link "a" "b" "tcp" 80]) := by decide
  have h := serves_served { bytes := 1 } firstPolicy
  have hcreated := h.after (.create [Store.link "c" "d" "udp" 53])
  have hdeleted := h.after (.delete [Store.link "a" "b" "tcp" 80])
  have hroom : ((served { bytes := 1 } firstPolicy).database.tables.enterAll
      [Store.link "c" "d" "udp" 53]).isSome := by
    rw [tables_served]
    decide +kernel
  have hroom' : (((served { bytes := 1 } firstPolicy).after
      (.delete [Store.link "a" "b" "tcp" 80])).database.tables.enterAll
      [Store.link "c" "d" "udp" 53]).isSome := by
    rw [h.tables_after, tables_served]
    decide +kernel
  have ha := h.create_after hroom
  have hab := hcreated.delete_after [Store.link "a" "b" "tcp" 80]
  have hb := h.delete_after [Store.link "a" "b" "tcp" 80]
  have hba := hdeleted.create_after hroom'
  obtain ⟨-, -, -, hholders, -⟩ := independent_changes_commute { bytes := 1 } { bytes := 1 }
    firstPolicy (.create [Store.link "c" "d" "udp" 53]) (.delete [Store.link "a" "b" "tcp" 80])
    hdisjoint _ _ _ _ ha hab hb hba
  refine ⟨hdisjoint, _, _, _, _, ha, hab, hb, hba, hholders, ?_⟩
  rw [hcreated.tables_after, hdeleted.tables_after, h.tables_after, h.tables_after, tables_served]
  decide +kernel

end NetworkPolicy
