import NetworkPolicy.Proofs.Requests

namespace NetworkPolicy

/-- Groups can be read, and none of them is held by the guid. -/
def Tables.Lacks (t : Tables) (guid : String) : Prop :=
  t.schema.groups = .full ∧ ∀ slot ∈ t.slots, slot.guid ≠ some guid

namespace Tables
variable {t : Tables} {guid : String}

theorem lacks_iff : t.Lacks guid ↔ t.schema.groups = .full ∧ t.slotOf guid = none := by
  simp [Lacks, slotOf, List.find?_eq_none]

theorem exists_freeSlot (hfree : ¬ t.UsedUp) : ∃ free, t.freeSlot = some free := by
  rwa [usedUp_iff_freeSlot, ← ne_eq, Option.ne_none_iff_exists'] at hfree

theorem giveSlot_of_usedUp (h : t.UsedUp) (guid type : String) :
    t.giveSlot guid type = (false, t) := by
  rw [giveSlot, usedUp_iff_freeSlot.1 h]

theorem giveSlot_of_ignored (hclaims : t.schema.claims = .ignored) (guid type : String) :
    t.giveSlot guid type = (false, t) := by
  rw [giveSlot, hclaims]
  cases t.freeSlot <;> rfl

theorem giveSlot_of_honoured (hclaims : t.schema.claims = .honoured) (hfree : ¬ t.UsedUp)
    (guid type : String) : ∃ t', t.giveSlot guid type = (true, t') ∧ ¬ t'.Lacks guid := by
  obtain ⟨free, hfree⟩ := exists_freeSlot hfree
  have hgiven : ⟨free.id, some guid, some type⟩ ∈
      (t.fillSlot free.id (some guid) (some type)).slots :=
    self_mem_replaceSlot ⟨free, (freeSlot_eq_some hfree).1, rfl⟩
  rw [giveSlot, hfree, hclaims]
  exact ⟨_, rfl, fun hlacks => hlacks.2 _ hgiven rfl⟩

theorem Lacks.giveSlot_of_undone (h : t.Lacks guid) (hclaims : t.schema.claims = .undone)
    (hfree : ¬ t.UsedUp) (type : String) :
    ∃ t', t.giveSlot guid type = (true, t') ∧ t'.Lacks guid := by
  obtain ⟨free, hfree⟩ := exists_freeSlot hfree
  rw [giveSlot, hfree, hclaims]
  refine ⟨_, rfl, h.1, fun slot hslot => ?_⟩
  rcases eq_or_mem_of_mem_replaceSlot hslot with rfl | hslot
  · exact (Option.some_ne_none guid).symm
  · exact h.2 slot hslot

end Tables

theorem Schema.demandGuids_cases (s : Schema) :
    (s.groups = .full ∧ (do s.demand [.groups]; s.demandGuids "guid") = .ok ()) ∨
      (s.groups ≠ .full ∧
        ∃ fault, (do s.demand [.groups]; s.demandGuids "guid") = .error fault) := by
  cases hgroups : s.groups with
  | full =>
    refine .inl ⟨rfl, ?_⟩
    simp [demand, has, demandGuids, hgroups, bind, Except.bind]
  | absent =>
    refine .inr ⟨by decide, .missingTable "groups", ?_⟩
    simp [demand, has, hgroups, Table.name, bind, Except.bind]
  | idOnly =>
    refine .inr ⟨by decide, .unknownColumn "guid", ?_⟩
    simp [demand, has, demandGuids, hgroups, bind, Except.bind]

namespace Work

theorem eq_emptyClaim_iff {t : Tables} {f : Failure} :
    f = emptyClaim t.countFree ↔
      (f = .poolExhausted ∧ t.UsedUp) ∨ (f = .slotsHeld ∧ ¬ t.UsedUp) := by
  rw [← Tables.countFree_eq_zero, emptyClaim]
  cases t.countFree <;> simp

section Refused
variable {α : Type} {guid : String} {f : Failure} {s s' : Session} (hf : ∀ fault, f ≠ .sql fault)
include hf

theorem readGuids_bind_error {read : Tables → α} {k : α → Work Int} :
    (query (fun s => do s.demand [.groups]; s.demandGuids "guid") read >>= k).on s =
        (.error f, s') ↔
      s.database.tables.schema.groups = .full ∧
        (k (read s.database.tables)).on s = (.error f, s') := by
  rw [bind_on, query_on]
  rcases s.database.tables.schema.demandGuids_cases with ⟨hfull, hd⟩ | ⟨hfull, fault, hd⟩
  · simp only [hd, hfull, true_and]
  · simp only [hd, hfull, false_and, iff_false]
    intro h
    cases h
    exact hf fault rfl

theorem slotOf_bind_error {otherwise : Work Int} :
    (do match ← Work.slotOf guid with
        | some slot => return slot.id
        | none => otherwise : Work Int).on s = (.error f, s') ↔
      s.database.tables.Lacks guid ∧ otherwise.on s = (.error f, s') := by
  rw [Tables.lacks_iff, and_assoc]
  refine (readGuids_bind_error hf).trans (and_congr_right fun _ => ?_)
  cases s.database.tables.slotOf guid with
  | none => simp only [true_and]
  | some slot =>
    simp only [reduceCtorEq, false_and, iff_false]
    intro h
    cases h

theorem statement_bind_error {run : Tables → Except Sql.Fault (α × Tables)} {k : α → Work Int} :
    (statement (fun _ => .ok ()) run >>= k).on s = (.error f, s') ↔
      ∃ a t, run s.database.tables = .ok (a, t) ∧
        (k a).on (s.withTables t) = (.error f, s') := by
  rw [bind_on, statement_on]
  rcases run s.database.tables with fault | ⟨a, t⟩
  · simp only [reduceCtorEq, false_and, exists_false, iff_false]
    intro h
    cases h
    exact hf fault rfl
  · simp

/-- A claim gets no slot in two ways: a row was reported and the guid has no slot all the same, or
no row was reported, and then the free slots are counted. -/
theorem claimBy_error {give : Tables → Except Sql.Fault (Bool × Tables)} :
    (claimBy give guid).on s = (.error f, s') ↔
      s.database.tables.Lacks guid ∧ ∃ t, s' = s.withTables t ∧
        ((give s.database.tables = .ok (true, t) ∧ t.Lacks guid ∧ f = .poolExhausted) ∨
          (give s.database.tables = .ok (false, t) ∧ t.schema.groups = .full ∧
            f = emptyClaim t.countFree)) := by
  refine (slotOf_bind_error hf).trans (and_congr_right fun _ => ?_)
  refine (statement_bind_error hf).trans ⟨?_, ?_⟩
  · rintro ⟨reported, t, hgive, h⟩
    cases reported with
    | true =>
      obtain ⟨hlacks, h⟩ := (slotOf_bind_error hf).1 h
      cases h
      exact ⟨t, rfl, .inl ⟨hgive, hlacks, rfl⟩⟩
    | false =>
      obtain ⟨hfull, h⟩ := (readGuids_bind_error hf).1 h
      cases h
      exact ⟨t, rfl, .inr ⟨hgive, hfull, rfl⟩⟩
  · rintro ⟨t, rfl, ⟨hgive, hlacks, rfl⟩ | ⟨hgive, hfull, rfl⟩⟩
    · exact ⟨true, t, hgive, (slotOf_bind_error hf).2 ⟨hlacks, rfl⟩⟩
    · exact ⟨false, t, hgive, (readGuids_bind_error hf).2 ⟨hfull, rfl⟩⟩

theorem claimBy_of_row {give : Tables → Except Sql.Fault (Bool × Tables)} {t : Tables}
    (hlacks : s.database.tables.Lacks guid) (hgive : give s.database.tables = .ok (true, t)) :
    (∃ s', (claimBy give guid).on s = (.error f, s')) ↔ t.Lacks guid ∧ f = .poolExhausted := by
  simp [claimBy_error hf, hlacks, hgive]

theorem claimBy_of_noRow {give : Tables → Except Sql.Fault (Bool × Tables)} {t : Tables}
    (hlacks : s.database.tables.Lacks guid) (hgive : give s.database.tables = .ok (false, t)) :
    (∃ s', (claimBy give guid).on s = (.error f, s')) ↔
      t.schema.groups = .full ∧ f = emptyClaim t.countFree := by
  simp [claimBy_error hf, hlacks, hgive]

theorem claimBy_giveSlot_error {type : String} :
    (∃ s', (claimBy (fun t => .ok (t.giveSlot guid type)) guid).on s = (.error f, s')) ↔
      s.database.tables.Lacks guid ∧
        ((f = .poolExhausted ∧
            (s.database.tables.UsedUp ∨ s.database.tables.schema.claims = .undone)) ∨
          (f = .slotsHeld ∧ ¬ s.database.tables.UsedUp ∧
            s.database.tables.schema.claims = .ignored)) := by
  by_cases hlacks : s.database.tables.Lacks guid
  · simp only [hlacks, true_and]
    by_cases hused : s.database.tables.UsedUp
    · have hgive := Tables.giveSlot_of_usedUp hused guid type
      rw [claimBy_of_noRow hf hlacks (congrArg Except.ok hgive)]
      simp [hlacks.1, eq_emptyClaim_iff, hused]
    · cases hclaims : s.database.tables.schema.claims with
      | honoured =>
        obtain ⟨t, hgive, hheld⟩ := Tables.giveSlot_of_honoured hclaims hused guid type
        rw [claimBy_of_row hf hlacks (congrArg Except.ok hgive)]
        simp [hheld, hused]
      | ignored =>
        have hgive := Tables.giveSlot_of_ignored hclaims guid type
        rw [claimBy_of_noRow hf hlacks (congrArg Except.ok hgive)]
        simp [hlacks.1, eq_emptyClaim_iff, hused]
      | undone =>
        obtain ⟨t, hgive, hlost⟩ := hlacks.giveSlot_of_undone hclaims hused type
        rw [claimBy_of_row hf hlacks (congrArg Except.ok hgive)]
        simp [hlost, hused]
  · simp [claimBy_error hf, hlacks]

end Refused

end Work

open Work

/-- Every way in which a claim by a guid without a slot calls the pool used up, or free slots held
by others: first for any update, then for the one that tables make. The pool is called used up while
slots are free exactly where a row is reported and the guid is lost again. -/
theorem failed_claim_meaning (give : Tables → Except Sql.Fault (Bool × Tables))
    (guid type : String) (s s' : Session) :
    let t := s.database.tables
    let claimed := (claimBy (fun t => .ok (t.giveSlot guid type)) guid).on s
    ((claimBy give guid).on s = (.error .poolExhausted, s') ↔
      t.Lacks guid ∧ ∃ t', s' = s.withTables t' ∧
        ((give t = .ok (false, t') ∧ t'.schema.groups = .full ∧ t'.UsedUp) ∨
          (give t = .ok (true, t') ∧ t'.Lacks guid))) ∧
    ((claimBy give guid).on s = (.error .slotsHeld, s') ↔
      t.Lacks guid ∧ ∃ t', s' = s.withTables t' ∧
        give t = .ok (false, t') ∧ t'.schema.groups = .full ∧ ¬ t'.UsedUp) ∧
    ((∃ s', claimed = (.error .poolExhausted, s')) ↔
      t.Lacks guid ∧ (t.UsedUp ∨ t.schema.claims = .undone)) ∧
    ((∃ s', claimed = (.error .slotsHeld, s')) ↔
      t.Lacks guid ∧ ¬ t.UsedUp ∧ t.schema.claims = .ignored) := by
  intro t claimed
  have hexhausted : ∀ fault, Failure.poolExhausted ≠ .sql fault := nofun
  have hheld : ∀ fault, Failure.slotsHeld ≠ .sql fault := nofun
  refine ⟨?_, ?_, ?_, ?_⟩
  · simp [claimBy_error hexhausted, eq_emptyClaim_iff, t, or_comm]
  · simp [claimBy_error hheld, eq_emptyClaim_iff, t]
  · exact (claimBy_giveSlot_error hexhausted).trans (by simp [t])
  · exact (claimBy_giveSlot_error hheld).trans (by simp [t])

def undoing : Tables :=
  { Tables.fresh 255 with schema := { Schema.complete with claims := .undone } }

/-- Claims are undone, so the pool is called used up, though every slot is free before and after. -/
theorem free_pool_called_used_up :
    ∃ s, (Migration.perform .sqlite [.simple "v" fun d => [.undoClaims d]] 0).on
        (served { bytes := 1 } []) = (.ok 1, s) ∧
      s.database.tables.Lacks "x" ∧ s.database.tables.countFree = 255 ∧
      (∃ s', (claim "x" "y").on s = (.error .poolExhausted, s') ∧
        s'.database.tables.countFree = 255) ∧
      (Store.createTag { bytes := 1 } "x" "y").on s =
        (.error (.stage "creating tag" .poolExhausted), s) := by
  rw [served_nil]
  have hlacks : undoing.Lacks "x" := ⟨rfl, by decide +kernel⟩
  have hfree : undoing.countFree = 255 := by decide +kernel
  have hlost : (undoing.fillSlot 1 none "y").countFree = 255 := by decide +kernel
  let done := Migration.idsOf Migration.steps ++ ["v"]
  refine ⟨(Store.asked {}).withRecord undoing done, rfl, hlacks, hfree,
    ⟨(Store.asked {}).withRecord (undoing.fillSlot 1 none "y") done, ?_, hlost⟩, ?_⟩
  · rfl
  · rfl

end NetworkPolicy
