import NetworkPolicy.Proofs.Atomicity
import NetworkPolicy.Proofs.Payloads
import NetworkPolicy.Proofs.Relisting

namespace NetworkPolicy

/-- A call from outside, where policies come as the body of a request. -/
inductive Call where
  | setUp (bytes : Nat)
  | create (body : ByteArray)
  | delete (body : ByteArray)
  | createTag (n : TagLength) (guid type : String)

/-- What a call asks of the store. A body that is not accepted asks nothing. -/
def Call.request? : Call → Option Request
  | setUp bytes => some (.setUp bytes)
  | create body => (Payload.accept Payload.check body).toOption.map .create
  | delete body => (Payload.accept Payload.check body).toOption.map .delete
  | createTag n guid type => some (.createTag n guid type)

/-- The session after calls, of which the first opens an empty database. -/
def called (n : TagLength) (calls : List Call) : Session :=
  served n (calls.filterMap Call.request?)

/-- What is created has valid keys. -/
def Request.Valid : Request → Prop
  | .create batch => ∀ p ∈ batch, p.key.Valid
  | _ => True

theorem eq_ok_of_toOption {ε α : Type} {r : Except ε α} {a : α} (h : r.toOption = some a) :
    r = .ok a := by
  cases r with
  | error e => cases h
  | ok b => exact congrArg Except.ok (Option.some.inj h)

theorem Call.exists_accepted {calls : List Call} {batch : List Policy}
    (h : .create batch ∈ calls.filterMap Call.request?) :
    ∃ body, Payload.accept Payload.check body = .ok batch := by
  obtain ⟨c, -, hc⟩ := List.mem_filterMap.1 h
  cases c with
  | create body =>
    obtain ⟨batch, hbatch, he⟩ := Option.map_eq_some_iff.1 hc
    cases he
    exact ⟨body, eq_ok_of_toOption hbatch⟩
  | delete body =>
    obtain ⟨batch, -, he⟩ := Option.map_eq_some_iff.1 hc
    cases he
  | setUp bytes => cases hc
  | createTag n guid type => cases hc

namespace Tables

variable {size : Nat} {t : Tables} {e : Entry} {k : Policy.Key}

theorem mem_keys_serve (h : t.Sound size) {r : Request} (hk : k ∈ (t.serve r).keys) :
    k ∈ t.keys ∨ ∃ batch, r = .create batch ∧ k ∈ batch.map Policy.key := by
  cases r with
  | setUp bytes => exact .inl hk
  | create batch =>
    rw [serve] at hk
    cases he : t.enterAll batch with
    | none =>
      rw [he] at hk
      exact .inl hk
    | some t' =>
      rw [he] at hk
      exact ((mem_keys_enterAll h he).1 hk).imp_right fun hk => ⟨batch, rfl, hk⟩
  | delete batch =>
    rw [serve, keys_strikeAll h] at hk
    exact .inl (List.mem_of_mem_filter hk)
  | createTag n guid type =>
    rw [serve] at hk
    cases hc : t.claim guid (typeOrDefault type) with
    | none =>
      rw [hc] at hk
      exact .inl hk
    | some found =>
      rw [hc] at hk
      exact .inl (keys_claim h.toCoherent hc ▸ hk)

theorem portRange_policy (h : t.Coherent size) (he : e ∈ t.entries) (n : TagLength) :
    (e.policy n).destination.portRange = (e.policy n).destination.ports :=
  congrArg Policy.Key.ports (key_policy_of_mem h he)

end Tables

/-- By induction on the requests: where only valid keys are created, all keys are valid. -/
theorem keys_served_valid (n : TagLength) (requests : List Request)
    (hvalid : ∀ r ∈ requests, r.Valid) :
    ∀ k ∈ (served n requests).database.tables.keys, k.Valid := by
  induction requests using List.reverseRecOn with
  | nil =>
    have hkeys : (served n []).database.tables.keys = [] := by
      rw [tables_served]
      rfl
    rw [hkeys]
    exact fun k hk => nomatch hk
  | append_singleton earlier r ih =>
    have h := serves_served n earlier
    intro k hk
    rw [tables_served_concat] at hk
    rcases Tables.mem_keys_serve h.sound hk with hold | ⟨batch, rfl, hnew⟩
    · exact ih (fun r hr => hvalid r (List.mem_append_left _ hr)) k hold
    · obtain ⟨p, hp, rfl⟩ := List.mem_map.1 hnew
      exact hvalid _ (List.mem_append_right _ List.mem_cons_self) p hp

theorem keys_called_valid (n : TagLength) (calls : List Call) :
    ∀ k ∈ (called n calls).database.tables.keys, k.Valid := by
  refine keys_served_valid n _ fun r hr => ?_
  cases r with
  | create batch =>
    obtain ⟨body, haccepted⟩ := Call.exists_accepted hr
    exact Payload.valid_of_accept haccepted
  | _ => trivial

/-- The body of a listing is accepted. What it says can be created, which changes no row, and
deleted, which leaves no policy, no destination and no range, and claims only for guids that are not
in the listing. -/
theorem listing_is_handle (n m : TagLength) (calls : List Call) (listed : List Policy)
    (hlisted : (Store.all m).on (called n calls) = (.ok listed, called n calls))
    (hne : listed ≠ []) :
    let t := (called n calls).database.tables
    ∃ batch, Payload.accept Payload.check (Payload.listing listed).toUTF8 = .ok batch ∧
      (∃ s', (Store.create batch).on (called n calls) = (.ok (), s') ∧
        s'.database.tables.slots = t.slots ∧ s'.database.tables.destinations = t.destinations ∧
        s'.database.tables.policies = t.policies ∧ s'.database.tables.ranges = t.ranges) ∧
      ∃ s', (Store.delete batch).on (called n calls) = (.ok (), s') ∧
        s'.database.tables.policies = [] ∧ s'.database.tables.destinations = [] ∧
        s'.database.tables.ranges = [] ∧
        s'.database.tables.held = t.held.filter fun slot =>
          ∀ p ∈ listed, slot.guid ≠ some p.source.id ∧ slot.guid ≠ some p.destination.id := by
  intro t
  have hs : (called n calls).Serves n.poolSize := serves_served n _
  have h : t.Coherent n.poolSize := hs.sound.toCoherent
  have hentries : t.entries.map (Entry.policy m) = listed := by
    rw [hs.all m] at hlisted
    cases hlisted
    rfl
  have hkeys : listed.map Policy.key = t.keys := by
    rw [← hentries]
    exact Tables.map_key_policy h
  have hports : ∀ p ∈ listed, p.destination.portRange = p.destination.ports := by
    intro p hp
    rw [← hentries] at hp
    obtain ⟨e, he, rfl⟩ := List.mem_map.1 hp
    exact Tables.portRange_policy h he m
  have hvalid : ∀ p ∈ listed, p.key.Valid := fun p hp =>
    keys_called_valid n calls _ (hkeys ▸ List.mem_map.2 ⟨p, hp, rfl⟩)
  have hrelisted : (listed.map Payload.relisted).map Policy.key = t.keys := by
    rw [← hkeys, List.map_map]
    exact List.map_congr_left fun p hp => Payload.key_relisted (hports p hp) (hvalid p hp)
  refine ⟨_, Payload.accept_listing hne hports hvalid, hs.create_of_knows fun q hq => ⟨?_, ?_⟩, ?_⟩
  · exact hrelisted ▸ List.mem_map.2 ⟨q, hq, rfl⟩
  · -- a listing says nothing of ranges, so none is wanting
    obtain ⟨p, -, rfl⟩ := List.mem_map.1 hq
    exact .inl rfl
  · obtain ⟨s', hdeleted, hpolicies, hdestinations, hranges, hheld⟩ := hs.delete_of_keys hrelisted
    refine ⟨s', hdeleted, hpolicies, hdestinations, hranges, hheld.trans ?_⟩
    exact List.filter_congr fun slot _ => by rw [decide_eq_decide, List.forall_mem_map]; rfl

def onePort : Policy where
  source := { id := "a" }
  destination := { id := "b", protocol := "tcp", port := 80, ports := ⟨80, 80⟩ }

def fewCalls : List Call :=
  [.createTag .oneByte "c" "", .create (Payload.listing [onePort]).toUTF8]

/-- The listing of a tag and a policy has the policy alone. -/
theorem listing_is_handle_after_few :
    ∃ listed, (Store.all { bytes := 1 }).on (called { bytes := 1 } fewCalls) =
        (.ok listed, called { bytes := 1 } fewCalls) ∧ listed ≠ [] ∧
      ∃ batch s', Payload.accept Payload.check (Payload.listing listed).toUTF8 = .ok batch ∧
        (Store.create batch).on (called { bytes := 1 } fewCalls) = (.ok (), s') := by
  have haccepted : Payload.accept Payload.check (Payload.listing [onePort]).toUTF8 =
      .ok [Payload.relisted onePort] := by
    refine Payload.accept_listing (by decide) ?_ ?_
    · decide
    · intro p hp
      rw [List.mem_singleton.1 hp]
      exact ⟨by decide, by decide, .inl rfl, by decide, by decide⟩
  have hrequests : fewCalls.filterMap Call.request? =
      [.createTag .oneByte "c" "", .create [Payload.relisted onePort]] := by
    simp only [fewCalls, Call.request?, haccepted, Except.toOption, Option.map_some,
      List.filterMap_cons, List.filterMap_nil]
  have hs : (called { bytes := 1 } fewCalls).Serves 255 := serves_served { bytes := 1 } _
  have hne : (called { bytes := 1 } fewCalls).database.tables.entries.map
      (Entry.policy { bytes := 1 }) ≠ [] := by
    rw [called, hrequests, tables_served]
    decide +kernel
  have hall := hs.all { bytes := 1 }
  obtain ⟨batch, hbatch, ⟨s', hcreated, -⟩, -⟩ :=
    listing_is_handle { bytes := 1 } { bytes := 1 } fewCalls _ hall hne
  exact ⟨_, hall, hne, batch, s', hbatch, hcreated⟩

end NetworkPolicy
