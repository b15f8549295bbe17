import NetworkPolicy.Proofs.Relisting
import NetworkPolicy.Proofs.Tags

namespace NetworkPolicy

namespace Tables

variable {size : Nat} {t t' : Tables} {keys more : List Policy.Key} {batch : List Policy}
  {p : Policy}

theorem strikeAll_append (t : Tables) (keys more : List Policy.Key) :
    (t.strikeAll keys).strikeAll more = t.strikeAll (keys ++ more) :=
  List.foldl_append.symm

/-- Which keys are struck out tells which policies are left, and these tell all that is left. -/
theorem Sound.strikeAll_congr (h : t.Sound size) (hsame : ∀ k, k ∈ keys ↔ k ∈ more) :
    t.strikeAll keys = t.strikeAll more := by
  refine (h.reducesTo_strikeAll keys).unique (h.reducesTo_strikeAll more) ?_
  simp only [policies_strikeAll h, hsame]

theorem knows_of_mem_enterAll (h : t.Sound size) (he : t.enterAll batch = some t')
    (hp : p ∈ batch) : t'.Knows p := by
  refine ⟨(mem_keys_enterAll h he).2 (.inr (List.mem_map.2 ⟨p, hp, rfl⟩)), ?_⟩
  cases hranges : p.destination.ranges with
  | nil => exact .inl rfl
  | cons r rest =>
    -- this range or an earlier one of the batch is recorded, if there was none before
    have hbrought : (Policy.firstRange batch p.destination.id).isSome := by
      refine List.findSome?_isSome_iff.2 ⟨p, hp, ?_⟩
      rw [if_pos rfl, hranges]
      rfl
    refine .inr (Option.isSome_iff_ne_none.1 ?_)
    rw [recorded_enterAll h he, Option.isSome_or, hbrought, Bool.or_true]

end Tables

namespace Session.Serves

variable {size : Nat} {s : Session}

theorem delete_delete (h : s.Serves size) (first second : List Policy) :
    ∃ s', (Store.delete first).on s = (.ok (), s') ∧
      (Store.delete second).on s' = (Store.delete (first ++ second)).on s := by
  have hstruck := h.sound.strikeAll (first.map Policy.key)
  refine ⟨_, h.delete first, ((h.withTables hstruck).delete second).trans ?_⟩
  rw [h.delete (first ++ second), List.map_append, ← Tables.strikeAll_append]
  rfl

theorem delete_congr (h : s.Serves size) {a b : List Policy}
    (hsame : ∀ k, k ∈ a.map Policy.key ↔ k ∈ b.map Policy.key) :
    (Store.delete a).on s = (Store.delete b).on s := by
  rw [h.delete, h.delete, h.sound.strikeAll_congr hsame]

end Session.Serves

/-- Deletions of batches with the same keys leave the same behind. To delete again changes nothing,
and before any other deletion it comes to the same as after it. -/
theorem deletion_told_by_keys (n : TagLength) (requests : List Request) (a b : List Policy)
    (hsame : ∀ k, k ∈ a.map Policy.key ↔ k ∈ b.map Policy.key) :
    ∃ s', (Store.delete a).on (served n requests) = (.ok (), s') ∧
      (Store.delete b).on (served n requests) = (.ok (), s') ∧
      (Store.delete a).on s' = (.ok (), s') ∧
      ∀ other, ∃ s₁ s₂, (Store.delete other).on s' = (.ok (), s₂) ∧
        (Store.delete other).on (served n requests) = (.ok (), s₁) ∧
        (Store.delete a).on s₁ = (.ok (), s₂) := by
  have hs := serves_served n requests
  obtain ⟨s', hdeleted, hthen⟩ := hs.delete_delete a a
  refine ⟨s', hdeleted, hs.delete_congr hsame ▸ hdeleted, ?_, fun other => ?_⟩
  · rw [hthen, ← hdeleted]
    exact hs.delete_congr fun k => by simp
  · obtain ⟨s'', hdeleted', hafter⟩ := hs.delete_delete a other
    obtain ⟨s₁, hother, hbefore⟩ := hs.delete_delete other a
    obtain rfl : s'' = s' := congrArg Prod.snd (hdeleted'.symm.trans hdeleted)
    refine ⟨s₁, _, hafter.trans (hs.delete _), hother, ?_⟩
    rw [hbefore, ← hs.delete]
    exact hs.delete_congr fun k => by simp [or_comm]

def sharedRequests : List Request :=
  [.create [
    Store.link "a" "b" "tcp" 80,
    Store.link "b" "a" "tcp" 80,
    { source := { id := "b" }
      destination := {
        id := "c", protocol := "udp", port := 53, ranges := [⟨"10.0.0.1", "10.0.0.9"⟩] } },
    Store.link "d" "b" "tcp" 80]]

def plainBatch : List Policy := [
  Store.link "a" "b" "tcp" 80, Store.link "b" "c" "udp" 53, Store.link "b" "a" "tcp" 80,
  Store.link "a" "b" "tcp" 80]

/-- The three policies in another order, with tags, types and ranges, and with their ports as
ranges. -/
def respelledBatch : List Policy := [
  { source := { id := "b", tag := "0F", type := "space" }
    destination := { id := "a", protocol := "tcp", port := 99, ports := ⟨80, 80⟩ } },
  { source := { id := "a" }
    destination := {
      id := "b", tag := "01", protocol := "tcp", ports := ⟨80, 80⟩, type := "router"
      ranges := [⟨"10.0.1.1", "10.0.1.9"⟩] } },
  Store.link "b" "c" "udp" 53]

/-- Both batches leave the slots of the policy that neither of them names. -/
theorem deletion_told_by_keys_respelled :
    ∃ s', (Store.delete plainBatch).on (served { bytes := 1 } sharedRequests) = (.ok (), s') ∧
      (Store.delete respelledBatch).on (served { bytes := 1 } sharedRequests) = (.ok (), s') ∧
      s'.database.tables.keys = [(Store.link "d" "b" "tcp" 80).key] ∧
      s'.database.tables.held = [⟨2, some "b", some "app"⟩, ⟨4, some "d", some "app"⟩] ∧
      s'.database.tables.ranges = [] := by
  have hs := serves_served { bytes := 1 } sharedRequests
  have hkeys : (plainBatch.map Policy.key).toFinset = (respelledBatch.map Policy.key).toFinset := by
    decide +kernel
  obtain ⟨s', hplain, hrespelled, -⟩ :=
    deletion_told_by_keys { bytes := 1 } sharedRequests plainBatch respelledBatch fun k => by
      rw [← List.mem_toFinset, hkeys, List.mem_toFinset]
  have hs' : s' = (served { bytes := 1 } sharedRequests).after (.delete plainBatch) :=
    (Prod.mk.inj (hplain.symm.trans (hs.delete_after plainBatch))).2
  refine ⟨s', hplain, hrespelled, ?_⟩
  rw [hs', hs.tables_after, tables_served]
  decide +kernel

/-- What a batch created, any of its policies, in any order and as often as they are sent again,
create without a trace: no slot is wanting for them, and no row changes. -/
theorem creation_absorbs_again (n : TagLength) (requests : List Request)
    (batch again : List Policy) (s' : Session)
    (hcreated : (Store.create batch).on (served n requests) = (.ok (), s'))
    (hsub : again ⊆ batch) :
    ∃ s'', (Store.create again).on s' = (.ok (), s'') ∧
      s''.database.tables.slots = s'.database.tables.slots ∧
      s''.database.tables.destinations = s'.database.tables.destinations ∧
      s''.database.tables.policies = s'.database.tables.policies ∧
      s''.database.tables.ranges = s'.database.tables.ranges := by
  have hs := serves_served n requests
  obtain ⟨t', he, rfl⟩ := hs.entered_of_create hcreated
  obtain ⟨h', -, -⟩ := hs.sound.enterAll he
  exact (hs.withTables h').create_of_knows fun p hp =>
    Tables.knows_of_mem_enterAll hs.sound he (hsub hp)

/-- A policy said in two ways: the types, the single ports and the ranges differ. -/
def rivals : List Policy := [
  { source := { id := "0", type := "space" }
    destination := {
      id := "1", protocol := "tcp", port := 85, ports := ⟨80, 90⟩, type := "router"
      ranges := [⟨"10.0.0.1", "10.0.0.9"⟩] } },
  { source := { id := "0", type := "router" }
    destination := {
      id := "1", protocol := "tcp", port := 86, ports := ⟨80, 90⟩
      ranges := [⟨"10.0.0.5", "10.0.0.9"⟩] } }]

/-- The rivals are created with a crowd that uses up the pool, and again the other way round. -/
theorem creation_absorbs_again_when_full :
    ∃ s' s'', (Store.create (rivals ++ crowd 255)).on (served { bytes := 1 } []) = (.ok (), s') ∧
      s'.database.tables.vacancies = [] ∧
      (Store.create (rivals.reverse ++ rivals)).on s' = (.ok (), s'') ∧
      s''.database.tables.slots = s'.database.tables.slots ∧
      s''.database.tables.destinations = s'.database.tables.destinations ∧
      s''.database.tables.policies = s'.database.tables.policies ∧
      s''.database.tables.ranges = s'.database.tables.ranges := by
  have hs := serves_served { bytes := 1 } []
  have hids : Policy.allIds (rivals ++ crowd 255) = Policy.allIds (crowd 255) := by
    have hrivals : Policy.allIds rivals = (Finset.range 2).image Nat.repr := by decide +kernel
    rw [Tables.allIds_append, Finset.union_eq_right, allIds_crowd, hrivals]
    exact Finset.image_subset_image (Finset.range_subset_range.2 (by decide))
  have hholders : ((served { bytes := 1 } []).database.tables.holders ∪
      Policy.allIds (rivals ++ crowd 255)).card = 255 := by
    rw [tables_served, List.foldl_nil, Tables.holders_fresh, Finset.empty_union, hids,
      card_allIds_crowd]
  have hroom : (served { bytes := 1 } []).database.tables.enterAll (rivals ++ crowd 255) ≠ none := by
    rw [ne_eq, Tables.enterAll_eq_none hs.sound, hholders]
    decide
  obtain ⟨t', he⟩ := Option.ne_none_iff_exists'.1 hroom
  have hcreated := hs.create (rivals ++ crowd 255)
  rw [he] at hcreated
  obtain ⟨h', -, hnow⟩ := hs.sound.enterAll he
  have hfree := Tables.length_vacancies h'.toCoherent
  have hsize : TagLength.poolSize { bytes := 1 } = 255 := by decide
  rw [hnow, hholders, hsize, Nat.add_eq_right, List.length_eq_zero_iff] at hfree
  obtain ⟨s'', hagain⟩ := creation_absorbs_again { bytes := 1 } [] (rivals ++ crowd 255)
    (rivals.reverse ++ rivals) _ hcreated (by simp)
  exact ⟨_, s'', hcreated, hfree, hagain⟩

end NetworkPolicy
