import Mathlib.Algebra.Group.Nat.Defs
import NetworkPolicy.Proofs.Atomicity
import NetworkPolicy.Proofs.Requests

namespace NetworkPolicy

theorem TagLength.poolSize_eq (n : TagLength) : n.poolSize = 2 ^ (8 * n.bytes) - 1 := by
  show 256 ^ n.bytes - 1 = _
  rw [Nat.pow_mul]

namespace Store

open Work

/-- Wherever filling a pool fails, and whatever it did before, the database is put back. -/
theorem populateBy_error {insert : Nat → Work Unit} {n : TagLength} {s s' : Session} {f : Failure}
    (h : (populateBy insert n).on s = (.error f, s')) : s'.database = s.database := by
  cases hclosed : s.closed with
  | true =>
    rw [populateBy, bind_on, connected_on, hclosed] at h
    cases h
    rfl
  | false =>
    rw [populateBy_on hclosed] at h
    split at h
    · cases h
      rfl
    · split at h
      · exact (transact_error h fun _ _ => trivial).1
      · cases h

theorem setUp_populating_error {bytes : Nat} {migrator : Migrator} {s s' : Session} {f : Failure}
    (h : (setUp bytes migrator).on s = (.error (.stage "populating tables" f), s')) :
    ∃ applied s₁, (migrate migrator).on s = (.ok applied, s₁) ∧ s'.database = s₁.database := by
  by_cases hb : 1 ≤ bytes ∧ bytes ≤ 3
  · rw [setUp_on ⟨bytes, hb.1, hb.2⟩] at h
    rcases hm : (migrate migrator).on s with ⟨e | applied, s₁⟩
    · rw [hm] at h
      simp at h
    · rw [hm] at h
      simp only at h
      rcases hp : (populate ⟨bytes, hb.1, hb.2⟩).on s₁ with ⟨e | _, s₂⟩
      · rw [hp] at h
        cases h
        exact ⟨applied, s₁, rfl, populateBy_error hp⟩
      · rw [hp] at h
        cases h
  · rw [setUp_refused hb] at h
    cases h

end Store

open Store Work

/-- What openings do, whether the store is one of policies or of tags. -/
theorem pool_filled_once :
    -- a tag length that is out of range is refused before anything is done or asked for
    (∀ bytes, ¬ (1 ≤ bytes ∧ bytes ≤ 3) → ∀ migrator s,
      (setUp bytes migrator).on s = (.error (.tagLength bytes), s)) ∧
    -- an empty database gets slots, numbered from one, and none of them is held
    (∀ (n : TagLength) (s : Session), s.closed = false → s.database = {} → ∃ s',
      (setUp n.bytes (.ofList Migration.steps)).on s = (.ok n, s') ∧
      s'.database.tables.slots = (List.range (2 ^ (8 * n.bytes) - 1)).map
        fun i : Nat => ⟨i + 1, none, some defaultType⟩) ∧
    -- batches of insertions end, and make as many slots as were asked for
    (∀ (total : Nat) (s : Session), let t := s.database.tables
      t.schema.groups = .full → (fill total).on s = (.ok (), s.withTables { t with
        slots := t.slots ++ (List.range total).map
          fun i : Nat => ⟨t.slots.length + 1 + i, none, some defaultType⟩ })) ∧
    -- a database that was opened before is left as it is
    (∀ (n : TagLength) (requests : List Request) (m : TagLength), let s := served n requests
      (Migrator.ofList Migration.steps s.dialect 0).on s = (.ok 0, s) ∧
      ∃ s', (setUp m.bytes (.ofList Migration.steps)).on s = (.ok m, s') ∧
        s'.database = s.database) ∧
    -- a pool that cannot be filled is left as it was, wherever an insertion fails
    (∀ insert n s f s', (populateBy insert n).on s = (.error f, s') →
      s'.database = s.database) ∧
    ∀ bytes migrator s f s',
      (setUp bytes migrator).on s = (.error (.stage "populating tables" f), s') →
      ∃ applied s₁, (migrate migrator).on s = (.ok applied, s₁) ∧ s'.database = s₁.database := by
  refine ⟨fun bytes hb migrator s => setUp_refused hb migrator s, fun n s hopen he => ?_,
    fun total s => ?_, fun n requests m => ?_, fun _ _ _ _ _ => populateBy_error,
    fun _ _ _ _ _ => setUp_populating_error⟩
  · refine ⟨_, setUp_empty hopen he n, ?_⟩
    rw [Session.withRecord_tables, Tables.slots_fresh, n.poolSize_eq]
  · intro t hgroups
    exact fill_on hgroups total
  · have h := serves_served n requests
    refine ⟨?_, asked (served n requests), h.setUp m, rfl⟩
    exact Migration.perform_of_recorded h.isOpen h.recorded
      (fun q hq => List.mem_map.2 ⟨q, hq, rfl⟩) _ 0

def unfilled : Session where
  database := { tables := { schema := .complete } }

/-- An insertion that fails after its first row. -/
def insertPart (_ : Nat) : Work Unit := do
  insertSlots 1
  throw .slotsHeld

theorem populateBy_insertPart :
    (populateBy insertPart .oneByte).on unfilled = (.error .slotsHeld, unfilled) := by
  rw [populateBy_on (s := unfilled) rfl]
  show (transact (fillBy insertPart 255)).on unfilled = _
  rw [transact_on, fillBy, dif_neg (by decide), bind_on]
  rfl

/-- A step that makes groups without guids, so that no slot can be inserted. -/
def narrowing : Migrator :=
  .ofList [.simple "1" fun d => [.narrowGroups d]]

def narrowed : Session :=
  (asked {}).withRecord { schema := { groups := .idOnly } } ["1"]

theorem setUp_narrowing :
    (setUp 1 narrowing).on {} = (.error (.stage "populating tables"
      (.sql (.missingColumn "groups" "guid"))), narrowed) := by
  have hmigrate : (migrate narrowing).on {} = (.ok 1, narrowed) := rfl
  have hpopulate : (populate .oneByte).on narrowed =
      (.error (.sql (.missingColumn "groups" "guid")), narrowed) := by
    rw [populate, populateBy_on (s := narrowed) rfl]
    show (transact (fillBy insertSlots 255)).on narrowed = _
    rw [transact_on, fillBy, dif_neg (by decide), bind_on]
    rfl
  rw [show 1 = TagLength.oneByte.bytes from rfl, setUp_on, hmigrate]
  simp only
  rw [hpopulate]

/-- A length of four bytes is refused, three bytes make more than sixteen million slots, more than
two batches stand behind a slot that is held, and what an insertion did before it failed is gone. -/
theorem pool_filled_once_or_put_back :
    let held : Tables := { schema := .complete, slots := [⟨1, some "a", some "app"⟩] }
    (¬ (1 ≤ 4 ∧ 4 ≤ 3) ∧ (setUp 4 narrowing).on {} = (.error (.tagLength 4), {})) ∧
    (∃ s', (setUp 3 (.ofList Migration.steps)).on {} = (.ok { bytes := 3 }, s') ∧
      s'.database.tables.slots = (List.range (2 ^ (8 * 3) - 1)).map
        fun i : Nat => ⟨i + 1, none, some defaultType⟩) ∧
    (held.schema.groups = .full ∧ (fill 2500).on (unfilled.withTables held) =
      (.ok (), unfilled.withTables { held with
        slots := held.slots ++ (List.range 2500).map
          fun i : Nat => ⟨1 + 1 + i, none, some defaultType⟩ })) ∧
    (∃ s', (populateBy insertPart .oneByte).on unfilled = (.error .slotsHeld, s') ∧
      s'.database = unfilled.database) ∧
    ∃ f s', (setUp 1 narrowing).on {} = (.error (.stage "populating tables" f), s') ∧
      ∃ applied s₁, (migrate narrowing).on {} = (.ok applied, s₁) ∧
        s'.database = s₁.database := by
  intro held
  obtain ⟨hrefused, hempty, hfill, -, hpart, hnarrow⟩ := pool_filled_once
  refine ⟨⟨by decide, hrefused 4 (by decide) narrowing {}⟩, hempty { bytes := 3 } {} rfl rfl,
    ⟨rfl, hfill 2500 (unfilled.withTables held) rfl⟩, ?_, ?_⟩
  · exact ⟨_, populateBy_insertPart, hpart _ _ _ _ _ populateBy_insertPart⟩
  · exact ⟨_, _, setUp_narrowing, hnarrow _ _ _ _ _ setUp_narrowing⟩

end NetworkPolicy
