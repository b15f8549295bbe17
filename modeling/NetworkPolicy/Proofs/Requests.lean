import NetworkPolicy.Proofs.Listing
import NetworkPolicy.Proofs.Opening
import NetworkPolicy.Proofs.Striking

namespace NetworkPolicy

def TagLength.oneByte : TagLength := { bytes := 1 }

/-- A request, or another opening of the store. -/
inductive Request where
  | setUp (bytes : Nat)
  | create (batch : List Policy)
  | delete (batch : List Policy)
  | createTag (n : TagLength) (guid type : String)

def Request.work : Request → Work Unit
  | setUp bytes => (fun _ => ()) <$> Store.setUp bytes (.ofList Migration.steps)
  | create batch => Store.create batch
  | delete batch => Store.delete batch
  | createTag n guid type => (fun _ => ()) <$> Store.createTag n guid type

/-- The session that a request leaves, whether or not it succeeds. -/
def Session.after (s : Session) (r : Request) : Session :=
  (r.work.on s).2

/-- The session after requests, of which the first opens an empty database. -/
def served (n : TagLength) (requests : List Request) : Session :=
  requests.foldl Session.after (Session.after {} (.setUp n.bytes))

/-- The store is open, nothing interrupts it, its schema is up to date and its tables are sound. -/
structure Session.Serves (size : Nat) (s : Session) : Prop where
  isOpen : s.closed = false
  plan : s.plan = []
  recorded : s.database.recorded = some (Migration.idsOf Migration.steps)
  size_pos : 0 < size
  sound : s.database.tables.Sound size

namespace Session.Serves

open Store Work

variable {size : Nat} {s : Session}

theorem withTables (h : s.Serves size) {t : Tables} (ht : t.Sound size) :
    (s.withTables t).Serves size :=
  { h with sound := ht }

theorem setUp (h : s.Serves size) (n : TagLength) :
    (Store.setUp n.bytes (.ofList Migration.steps)).on s = (.ok n, asked s) := by
  -- a pool has slots, so it is not filled again
  have hslots : s.database.tables.slots ≠ [] := by
    intro hempty
    have hlength := h.sound.pool.length_eq
    rw [hempty] at hlength
    exact h.size_pos.ne hlength
  exact setUp_filled h.isOpen h.recorded h.sound.schema hslots n

theorem create (h : s.Serves size) (batch : List Policy) :
    (Store.create batch).on s =
      match s.database.tables.enterAll batch with
      | some t => (.ok (), s.withTables t)
      | none => (.error (.stage "creating group" .poolExhausted), s) :=
  create_withTables h.plan h.isOpen h.sound batch

theorem delete (h : s.Serves size) (batch : List Policy) :
    (Store.delete batch).on s =
      (.ok (), s.withTables (s.database.tables.strikeAll (batch.map Policy.key))) :=
  delete_withTables h.plan h.isOpen h.sound batch

theorem createTag (h : s.Serves size) (n : TagLength) (guid type : String) :
    match s.database.tables.claim guid (typeOrDefault type) with
    | some (_, t) =>
      ∃ tag, (Store.createTag n guid type).on s = (.ok tag, s.withTables t) ∧
        ∃ slot, t.slotOf guid = some slot ∧ tagOf? n slot = some tag
    | none => (Store.createTag n guid type).on s =
        (.error (.stage "creating tag" .poolExhausted), s) :=
  createTag_withTables h.plan h.isOpen h.sound.toCoherent n guid type

theorem all (h : s.Serves size) (n : TagLength) :
    (Store.all n).on s = (.ok (s.database.tables.entries.map (Entry.policy n)), s) :=
  all_withTables h.isOpen h.sound.toCoherent n

theorem byGuids (h : s.Serves size) (n : TagLength) (selection : Selection) :
    (Store.byGuids n selection).on s =
      (.ok (if selection.sources.isEmpty ∧ selection.destinations.isEmpty then []
        else (s.database.tables.entries.filter selection.selects).map (Entry.policy n)), s) :=
  byGuids_withTables h.isOpen h.sound.toCoherent n selection

theorem tags (h : s.Serves size) (n : TagLength) :
    (Store.tags n).on s = (.ok (s.database.tables.slots.filterMap (tagOf? n)), s) :=
  tags_withTables h.isOpen h.sound.toCoherent n

/-- A request keeps the store serving. -/
theorem after (h : s.Serves size) (r : Request) : (s.after r).Serves size := by
  cases r with
  | setUp bytes =>
    rw [Session.after, Request.work, map_on]
    by_cases hb : 1 ≤ bytes ∧ bytes ≤ 3
    · have hopened := h.setUp ⟨bytes, hb.1, hb.2⟩
      rw [hopened]
      exact { h with }
    · rw [setUp_refused hb]
      exact h
  | create batch =>
    rw [Session.after, Request.work, h.create]
    cases he : s.database.tables.enterAll batch with
    | none => exact h
    | some t =>
      obtain ⟨ht, -, -⟩ := h.sound.enterAll he
      exact h.withTables ht
  | delete batch =>
    rw [Session.after, Request.work, h.delete]
    exact h.withTables (h.sound.strikeAll _)
  | createTag n guid type =>
    rw [Session.after, Request.work, map_on]
    have hmade := h.createTag n guid type
    cases hc : s.database.tables.claim guid (typeOrDefault type) with
    | none =>
      rw [hc] at hmade
      rw [hmade]
      exact h
    | some found =>
      rw [hc] at hmade
      obtain ⟨tag, hmade, -⟩ := hmade
      rw [hmade]
      exact h.withTables (h.sound.claim (typeOrDefault_isEmpty type) hc)

end Session.Serves

theorem served_nil (n : TagLength) :
    served n [] =
      (Store.asked {}).withRecord (.fresh n.poolSize) (Migration.idsOf Migration.steps) := by
  rw [served, List.foldl_nil, Session.after, Request.work, Work.map_on, Store.setUp_empty rfl rfl]

theorem serves_opened (n : TagLength) : (served n []).Serves n.poolSize := by
  rw [served_nil]
  exact ⟨rfl, rfl, rfl, n.poolSize_pos, Tables.sound_fresh _⟩

/-- By induction on the requests, every one of which keeps the store serving. -/
theorem serves_served (n : TagLength) (requests : List Request) :
    (served n requests).Serves n.poolSize := by
  unfold served
  induction requests using List.reverseRecOn with
  | nil => exact serves_opened n
  | append_singleton earlier r ih =>
    rw [List.foldl_append]
    exact ih.after r

def Tables.serve (t : Tables) : Request → Tables
  | .setUp _ => t
  | .create batch => (t.enterAll batch).getD t
  | .delete batch => t.strikeAll (batch.map Policy.key)
  | .createTag _ guid type => ((t.claim guid (typeOrDefault type)).map (·.2)).getD t

namespace Session.Serves

open Store Work

variable {size : Nat} {s : Session}

theorem tables_after (h : s.Serves size) (r : Request) :
    (s.after r).database.tables = s.database.tables.serve r := by
  cases r with
  | setUp bytes =>
    rw [Session.after, Request.work, map_on]
    by_cases hb : 1 ≤ bytes ∧ bytes ≤ 3
    · have hopened := h.setUp ⟨bytes, hb.1, hb.2⟩
      rw [hopened]
      rfl
    · rw [setUp_refused hb]
      rfl
  | create batch =>
    rw [Session.after, Request.work, h.create, Tables.serve]
    cases s.database.tables.enterAll batch <;> rfl
  | delete batch =>
    rw [Session.after, Request.work, h.delete]
    rfl
  | createTag n guid type =>
    rw [Session.after, Request.work, map_on, Tables.serve]
    have hmade := h.createTag n guid type
    cases hc : s.database.tables.claim guid (typeOrDefault type) with
    | none =>
      rw [hc] at hmade
      rw [hmade]
      rfl
    | some found =>
      rw [hc] at hmade
      obtain ⟨tag, hmade, -⟩ := hmade
      rw [hmade]
      rfl

theorem after_create (h : s.Serves size) (batch : List Policy) :
    s.after (.create batch) = s.withTables (s.database.tables.serve (.create batch)) := by
  rw [Session.after, Request.work, h.create, Tables.serve]
  cases s.database.tables.enterAll batch <;> rfl

theorem create_after (h : s.Serves size) {batch : List Policy}
    (hroom : (s.database.tables.enterAll batch).isSome) :
    (Store.create batch).on s = (.ok (), s.after (.create batch)) := by
  obtain ⟨t, ht⟩ := Option.isSome_iff_exists.1 hroom
  have hcreated := h.create batch
  rw [ht] at hcreated
  rw [Session.after, Request.work, hcreated]

theorem entered_of_create (h : s.Serves size) {batch : List Policy} {s' : Session}
    (hcreated : (Store.create batch).on s = (.ok (), s')) :
    ∃ t', s.database.tables.enterAll batch = some t' ∧ s' = s.withTables t' := by
  have hanswer := h.create batch
  rw [hcreated] at hanswer
  cases he : s.database.tables.enterAll batch with
  | none =>
    rw [he] at hanswer
    cases hanswer
  | some t' =>
    rw [he] at hanswer
    exact ⟨t', rfl, congrArg Prod.snd hanswer⟩

theorem delete_after (h : s.Serves size) (batch : List Policy) :
    (Store.delete batch).on s = (.ok (), s.after (.delete batch)) := by
  rw [Session.after, Request.work, h.delete]

end Session.Serves

theorem tables_served_concat (n : TagLength) (earlier : List Request) (r : Request) :
    (served n (earlier ++ [r])).database.tables = (served n earlier).database.tables.serve r := by
  rw [served, List.foldl_append]
  exact (serves_served n earlier).tables_after r

/-- By induction on the requests: the tables are told by what each request makes of them. -/
theorem tables_served (n : TagLength) (requests : List Request) :
    (served n requests).database.tables = requests.foldl Tables.serve (.fresh n.poolSize) := by
  induction requests using List.reverseRecOn with
  | nil =>
    rw [served_nil]
    rfl
  | append_singleton earlier r ih =>
    rw [tables_served_concat, ih, List.foldl_append]
    rfl

/-- What the tables hold after any requests. -/
theorem served_tables_fit (n : TagLength) (requests : List Request) :
    let t := (served n requests).database.tables
    -- the slots are those of the first opening
    t.slots.map (·.id) = (List.range n.poolSize).map (fun i : Nat => (i : Int) + 1) ∧
    -- no two of them are held by one guid, and a held one has a type
    (∀ a ∈ t.slots, ∀ b ∈ t.slots, ∀ guid, a.guid = some guid → b.guid = some guid → a = b) ∧
    (∀ a ∈ t.slots, a.guid.isSome → ∃ type, a.type = some type ∧ type ≠ "") ∧
    -- policies are from a held slot to a destination, and destinations are of a held slot and have
    -- a policy
    (∀ p ∈ t.policies, Claimed t.slots p.source ∧ ∃ d ∈ t.destinations, d.id = p.destination) ∧
    (∀ d ∈ t.destinations, Claimed t.slots d.group ∧ ∃ p ∈ t.policies, p.destination = d.id) ∧
    -- no row repeats another one
    (t.destinations.map (·.id)).Nodup ∧ (t.destinations.map (·.toDestinationKey)).Nodup ∧
    t.policies.Nodup ∧ (t.ranges.map (·.group)).Nodup ∧
    -- a range is of a held slot that some policy is from or to
    ∀ r ∈ t.ranges, Claimed t.slots r.group ∧ ∃ p ∈ t.policies,
      p.source = r.group ∨ ∃ d ∈ t.destinations, d.id = p.destination ∧ d.group = r.group := by
  intro t
  have h : t.Sound n.poolSize := (serves_served n requests).sound
  refine ⟨h.pool.numbers, h.pool.guids, ?_, ?_, ?_, h.destinationIds, h.keys, h.policies, h.ranges,
    ?_⟩
  · intro a ha hheld
    obtain ⟨type, htype, hempty⟩ := h.pool.types a ha hheld
    refine ⟨type, htype, ?_⟩
    rintro rfl
    cases hempty
  · intro p hp
    exact ⟨h.sources p hp, h.targets p hp⟩
  · intro d hd
    exact ⟨h.owners d hd, h.pointed d hd⟩
  · intro r hr
    refine ⟨h.rangeOwners r hr, ?_⟩
    rcases h.used r hr with ⟨p, hp, hps⟩ | ⟨d, hd, hdg⟩
    · exact ⟨p, hp, .inl hps⟩
    · obtain ⟨p, hp, hpd⟩ := h.pointed d hd
      exact ⟨p, hp, .inr ⟨d, hd, hpd.symm, hdg⟩⟩

/-- A listing shows the rows of the policies, in their order. A deletion always succeeds, and the
listing after it is the listing before it without the policies that have the key of one to be
deleted. -/
theorem delete_removes_exactly (n m : TagLength) (requests : List Request) (batch : List Policy) :
    let t := (served n requests).database.tables
    ∃ listed s', (Store.all m).on (served n requests) = (.ok listed, served n requests) ∧
      List.Forall₂ t.Stores t.policies (listed.map Policy.key) ∧
      (Store.delete batch).on (served n requests) = (.ok (), s') ∧
      (Store.all m).on s' = (.ok (listed.filter fun p => p.key ∉ batch.map Policy.key), s') := by
  intro t
  have h := serves_served n requests
  have hstruck := h.sound.strikeAll (batch.map Policy.key)
  refine ⟨_, _, h.all m, Tables.stores_policy h.sound.toCoherent, h.delete batch, ?_⟩
  rw [(h.withTables hstruck).all m, Session.withTables_tables, Tables.entries_strikeAll h.sound,
    List.filter_map]
  have hkeys : ∀ e ∈ (served n requests).database.tables.entries,
      (e.policy m).key = e.key := fun e he => Tables.key_policy_of_mem h.sound.toCoherent he
  congr 3
  apply List.filter_congr
  intro e he
  simp only [Function.comp_apply, hkeys e he]

end NetworkPolicy
