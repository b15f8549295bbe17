import NetworkPolicy.Migration.Steps
import NetworkPolicy.Proofs.Uninterrupted
import NetworkPolicy.Proofs.Upgrades
import NetworkPolicy.Store.Opening

namespace NetworkPolicy

namespace Migration

theorem nodup_ids_steps : (idsOf steps).Nodup := by
  simp [idsOf, steps]

theorem build_steps (d : Sql.Dialect) :
    steps.foldlM (build d) {} = .ok { schema := .complete } := rfl

end Migration

namespace Tables

theorem addSlots_zero (t : Tables) : t.addSlots 0 = t := by
  simp [addSlots]

theorem addSlots_addSlots (t : Tables) (a b : Nat) :
    (t.addSlots a).addSlots b = t.addSlots (a + b) := by
  simp only [addSlots, List.length_append, List.length_map, List.length_range, List.range_add,
    List.map_append, List.map_map, List.append_assoc]
  congr 3
  apply List.map_congr_left
  intro i _
  simp only [Function.comp_apply, Slot.mk.injEq, and_true]
  push_cast
  omega

def fresh (size : Nat) : Tables :=
  ({ schema := .complete } : Tables).addSlots size

theorem slots_fresh (size : Nat) :
    (fresh size).slots = (List.range size).map fun i : Nat => { id := (i : Int) + 1 } := by
  apply List.map_congr_left
  intro i _
  show ({ id := (0 : Int) + 1 + i } : Slot) = { id := i + 1 }
  rw [Int.zero_add, Int.add_comm]

theorem guids_fresh (size : Nat) : (fresh size).guids = [] := by
  rw [guids, slots_fresh, List.filterMap_map]
  exact List.filterMap_eq_nil_iff.2 fun _ _ => rfl

theorem sound_fresh (size : Nat) : (fresh size).Sound size where
  schema := rfl
  pool := by
    have hfree : ∀ a ∈ (fresh size).slots, a.guid = none := by
      intro a ha
      rw [slots_fresh] at ha
      obtain ⟨i, -, rfl⟩ := List.mem_map.1 ha
      rfl
    refine ⟨?_, fun a ha b _ g hg _ => ?_, fun a ha hsome => ?_⟩
    · rw [slots_fresh, List.map_map]
      rfl
    · rw [hfree a ha] at hg
      cases hg
    · rw [hfree a ha] at hsome
      cases hsome
  destinationIds := List.nodup_nil
  taken := fun _ hd => nomatch hd
  keys := List.nodup_nil
  written := fun _ hd => nomatch hd
  owners := fun _ hd => nomatch hd
  policies := List.nodup_nil
  sources := fun _ hp => nomatch hp
  targets := fun _ hp => nomatch hp
  ranges := List.nodup_nil
  rangeOwners := fun _ hr => nomatch hr
  pointed := fun _ hd => nomatch hd
  used := fun _ hr => nomatch hr

end Tables

theorem TagLength.poolSize_pos (n : TagLength) : 0 < n.poolSize := by
  have hpow : 256 ^ 1 ≤ 256 ^ n.bytes := Nat.pow_le_pow_right (by omega) n.bytes_pos
  have hsize : n.poolSize = 256 ^ n.bytes - 1 := rfl
  omega

namespace Store

open Work

variable {s : Session} {n : TagLength}

theorem insertSlots_on {s : Session} (hs : s.database.tables.schema.groups = .full) (count : Nat) :
    (insertSlots count).on s = (.ok (), s.withTables (s.database.tables.addSlots count)) := by
  have hgroups : s.database.tables.schema.demand [.groups] = .ok () := by
    simp [Schema.demand, Schema.has, hs]
  rw [insertSlots, update, statement_on, hgroups, hs]
  rfl

/-- By induction on the slots that are left: batches of them make one pool. -/
theorem fill_on {s : Session} (hs : s.database.tables.schema.groups = .full) (left : Nat) :
    (fill left).on s = (.ok (), s.withTables (s.database.tables.addSlots left)) := by
  unfold fill
  induction left using fillBy.induct generalizing s with
  | case1 =>
    rw [fillBy, dif_pos rfl, Tables.addSlots_zero]
    rfl
  | case2 left hpos ih =>
    have hmore := ih (s := s.withTables (s.database.tables.addSlots (min batchSize left))) hs
    rw [fillBy, dif_neg hpos, bind_on, insertSlots_on hs]
    simp only
    rw [hmore, Session.withTables_withTables, Session.withTables_tables, Tables.addSlots_addSlots,
      Nat.add_sub_cancel' (Nat.min_le_right _ _)]

theorem populateBy_on {s : Session} (hopen : s.closed = false) (insert : Nat → Work Unit)
    (n : TagLength) :
    (populateBy insert n).on s =
      match s.database.tables.schema.demand [.groups] with
      | .error fault => (.error (.sql fault), s)
      | .ok () =>
        if s.database.tables.slots.isEmpty then (transact (fillBy insert n.poolSize)).on s
        else (.ok (), s) := by
  rw [populateBy, bind_on, connected_on, hopen]
  simp only [Bool.false_eq_true, if_false]
  rw [bind_on, query_on]
  cases s.database.tables.schema.demand [.groups] with
  | error fault => rfl
  | ok _ =>
    cases s.database.tables.slots.isEmpty <;> rfl

theorem populate_empty (hopen : s.closed = false) (hs : s.database.tables.schema = .complete)
    (he : s.database.tables.slots = []) :
    (populate n).on s = (.ok (), s.withTables (s.database.tables.addSlots n.poolSize)) := by
  have hfull : s.database.tables.schema.groups = .full := congrArg Schema.groups hs
  rw [populate, populateBy_on hopen, hs, he]
  show (transact (fill n.poolSize)).on s = _
  rw [transact_on, hopen, fill_on hfull]
  rfl

theorem populate_filled (hopen : s.closed = false) (hs : s.database.tables.schema = .complete)
    (he : s.database.tables.slots ≠ []) : (populate n).on s = (.ok (), s) := by
  have hfilled : s.database.tables.slots.isEmpty = false := by simpa using he
  rw [populate, populateBy_on hopen, hs, hfilled]
  rfl

/-- The session after all migrations were asked for. -/
def asked (s : Session) : Session :=
  { s with requests := s.requests ++ [(s.dialect, 0)] }

theorem ofBytes_bytes (n : TagLength) : TagLength.ofBytes n.bytes = .ok n :=
  dif_pos ⟨n.bytes_pos, n.bytes_le⟩

theorem setUp_on (n : TagLength) (migrator : Migrator) (s : Session) :
    (setUp n.bytes migrator).on s =
      match (migrate migrator).on s with
      | (.error f, s') => (.error (.stage "perform migrations" f), s')
      | (.ok _, s') =>
        match (populate n).on s' with
        | (.error f, s'') => (.error (.stage "populating tables" f), s'')
        | (.ok _, s'') => (.ok n, s'') := by
  rw [setUp, bind_on, attempt_on, ofBytes_bytes]
  simp only
  rw [bind_on, staged_on]
  rcases (migrate migrator).on s with ⟨_ | _, s'⟩
  · rfl
  · simp only
    rw [bind_on, staged_on]
    rcases (populate n).on s' with ⟨_ | _, _⟩ <;> rfl

theorem setUp_empty (hopen : s.closed = false) (he : s.database = {}) (n : TagLength) :
    (setUp n.bytes (.ofList Migration.steps)).on s =
      (.ok n, (asked s).withRecord (.fresh n.poolSize) (Migration.idsOf Migration.steps)) := by
  have hmigrate : (migrate (.ofList Migration.steps)).on s =
      (.ok Migration.steps.length,
        (asked s).withRecord { schema := .complete } (Migration.idsOf Migration.steps)) := by
    have hdatabase : (asked s).database = {} := he
    have hdone : (asked s).done = [] := by
      rw [Session.done, hdatabase]
      rfl
    have hbuilt : (Migration.due (asked s).done 0 Migration.steps).foldlM
        (Migration.build s.dialect) (asked s).database.tables = .ok { schema := .complete } := by
      rw [hdone, hdatabase]
      exact Migration.build_steps s.dialect
    have hdoes := Migration.perform_does (s := asked s) hopen Migration.nodup_ids_steps s.dialect 0
    refine (hdoes.finished _ hbuilt).trans ?_
    rw [hdone]
    rfl
  have hpopulate := populate_empty (n := n)
    (s := (asked s).withRecord { schema := .complete } (Migration.idsOf Migration.steps)) hopen
    rfl rfl
  rw [setUp_on, hmigrate]
  simp only
  rw [hpopulate]
  rfl

theorem setUp_filled (hopen : s.closed = false)
    (hr : s.database.recorded = some (Migration.idsOf Migration.steps))
    (hs : s.database.tables.schema = .complete) (he : s.database.tables.slots ≠ [])
    (n : TagLength) :
    (setUp n.bytes (.ofList Migration.steps)).on s = (.ok n, asked s) := by
  have hmigrate : (migrate (.ofList Migration.steps)).on s = (.ok 0, asked s) :=
    Migration.perform_of_recorded (s := asked s) hopen hr
      (fun m hm => List.mem_map.2 ⟨m, hm, rfl⟩) s.dialect 0
  have hpopulate : (populate n).on (asked s) = (.ok (), asked s) :=
    populate_filled (s := asked s) hopen hs he
  rw [setUp_on, hmigrate]
  simp only
  rw [hpopulate]

theorem setUp_refused {bytes : Nat} (hb : ¬ (1 ≤ bytes ∧ bytes ≤ 3)) (migrator : Migrator)
    (s : Session) : (setUp bytes migrator).on s = (.error (.tagLength bytes), s) := by
  rw [setUp, bind_on, attempt_on, TagLength.ofBytes, dif_neg hb]

end Store

end NetworkPolicy
