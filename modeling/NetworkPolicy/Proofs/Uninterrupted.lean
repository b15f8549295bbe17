import NetworkPolicy.Proofs.Changes
import NetworkPolicy.Proofs.Outcome

namespace NetworkPolicy

open Work

theorem typeOrDefault_isEmpty (type : String) : (typeOrDefault type).isEmpty = false := by
  unfold typeOrDefault
  split
  · rfl
  · next h => simpa using h

namespace Work

variable {size : Nat} {s : Session} {t : Tables} {α : Type}

theorem statement_withTables (hs : t.schema = .complete)
    {demands : Schema → Except Sql.Fault Unit} (hd : demands .complete = .ok ())
    (run : Tables → Except Sql.Fault (α × Tables)) :
    (statement demands run).on (s.withTables t) =
      match run t with
      | .error fault => (.error (.sql fault), s.withTables t)
      | .ok (a, t') => (.ok a, s.withTables t') := by
  rw [statement_on, Session.withTables_tables, hs, hd]
  cases run t <;> rfl

theorem query_withTables (hs : t.schema = .complete) {demands : Schema → Except Sql.Fault Unit}
    (hd : demands .complete = .ok ()) (read : Tables → α) :
    (query demands read).on (s.withTables t) = (.ok (read t), s.withTables t) := by
  rw [query, statement_withTables hs hd]

theorem update_withTables (hs : t.schema = .complete) {demands : Schema → Except Sql.Fault Unit}
    (hd : demands .complete = .ok ()) {write : Tables → Except Sql.Fault Tables} {t' : Tables}
    (hw : write t = .ok t') :
    (update demands write).on (s.withTables t) = (.ok (), s.withTables t') := by
  rw [update, statement_withTables hs hd, hw]
  rfl

theorem slotOf_withTables (hs : t.schema = .complete) (guid : String) :
    (Work.slotOf guid).on (s.withTables t) = (.ok (t.slotOf guid), s.withTables t) :=
  query_withTables hs rfl _

theorem countFree_withTables (hs : t.schema = .complete) :
    countFree.on (s.withTables t) = (.ok t.countFree, s.withTables t) :=
  query_withTables hs rfl _

theorem call_withTables (hp : s.plan = []) (op : Operation) (w : Work α) :
    (call op w).on (s.withTables t) = w.on (s.withTables t) :=
  call_on_of_plan_nil (s := s.withTables t) hp op w

variable (hp : s.plan = []) (h : t.Coherent size)
include hp h

theorem claim_withTables (guid : String) {type : String} (ht : type.isEmpty = false) :
    (claim guid type).on (s.withTables t) =
      match t.claim guid type with
      | some (id, t') => (.ok id, s.withTables t')
      | none => (.error .poolExhausted, s.withTables t) := by
  rw [claim, call_withTables hp, claimBy, bind_on, slotOf_withTables h.schema, Tables.claim]
  rcases ho : t.slotOf guid with _ | found
  · simp only
    rw [bind_on, statement_withTables h.schema rfl]
    rcases hf : t.freeSlot with _ | free
    · have hused : t.countFree = 0 :=
        Tables.countFree_eq_zero.2 (Tables.usedUp_iff_freeSlot.2 hf)
      have hgive : t.giveSlot guid type = (false, t) := by simp only [Tables.giveSlot, hf]
      simp only [hgive, Bool.false_eq_true, if_false]
      rw [bind_on, countFree_withTables h.schema, hused]
      rfl
    · have hgive : t.giveSlot guid type = (true, t.fillSlot free.id (some guid) (some type)) := by
        simp only [Tables.giveSlot, hf, h.schema]
        rfl
      have hgiven := h.giveSlot hf (Tables.slotOf_eq_none.1 ho) ht
      -- the guid is looked for again, and now it is found
      have hnow := Tables.slotOf_giveSlot h hf (Tables.slotOf_eq_none.1 ho) ht
      simp only [hgive, if_true]
      rw [bind_on, slotOf_withTables hgiven.schema, hnow]
      rfl
  · rfl

theorem lookup_withTables (guid : String) :
    (lookup guid).on (s.withTables t) =
      match t.slotOf guid with
      | some found => (.ok found.id, s.withTables t)
      | none => (.error .notFound, s.withTables t) := by
  rw [lookup, call_withTables hp, bind_on, slotOf_withTables h.schema]
  cases t.slotOf guid <;> rfl

omit hp in
theorem destinationId_withTables (key : DestinationKey) :
    (destinationId key).on (s.withTables t) =
      match t.findDestination key with
      | some d => (.ok d.id, s.withTables t)
      | none => (.error .notFound, s.withTables t) := by
  rw [destinationId, bind_on, query_withTables h.schema rfl]
  cases t.findDestination key <;> rfl

theorem findDestination_withTables (key : DestinationKey) :
    (Work.findDestination key).on (s.withTables t) =
      match t.findDestination key with
      | some d => (.ok d.id, s.withTables t)
      | none => (.error .notFound, s.withTables t) := by
  rw [Work.findDestination, call_withTables hp, destinationId_withTables h]

theorem addRange_withTables {group : Int} (hc : Claimed t.slots group) (r : AddressRange)
    (rest : List AddressRange) :
    (Work.addRange ⟨group, r.first, r.last⟩).on (s.withTables t) =
      (.ok (), s.withTables (t.putRange group (r :: rest))) := by
  have hadd : t.addRange ⟨group, r.first, r.last⟩ = .ok (t.putRange group (r :: rest)) := by
    unfold Tables.addRange Tables.putRange
    split
    · rfl
    · rw [if_pos (Tables.slotAt_isSome_of_claimed hc)]
  rw [Work.addRange, call_withTables hp]
  exact update_withTables h.schema rfl hadd

theorem findOrCreate_withTables {group : Int} (e : Destination) (hc : Claimed t.slots group) :
    (findOrCreate (Store.destinationKey group e) e.legacyPort e.ranges).on (s.withTables t) =
      (destinationId (Store.destinationKey group e)).on (s.withTables (t.put group e)) := by
  have hput := h.putDestination (e := e) hc
  have hadd : t.addDestination (Store.destinationKey group e) e.legacyPort.toNat =
      .ok (t.putDestination (Store.destinationKey group e) e.legacyPort.toNat) := by
    unfold Tables.addDestination Tables.putDestination
    split
    · rfl
    · rw [if_pos (show (t.slotAt (Store.destinationKey group e).group).isSome = true from
        Tables.slotAt_isSome_of_claimed hc)]
  rw [findOrCreate, call_withTables hp, bind_on, update_withTables h.schema rfl hadd, Tables.put]
  cases e.ranges with
  | nil => rfl
  | cons r rest =>
    have hc' : Claimed (t.putDestination (Store.destinationKey group e) e.legacyPort.toNat).slots
        group := by simpa using hc
    simp only
    rw [bind_on, show (Store.destinationKey group e).group = group from rfl,
      addRange_withTables hp hput hc' r rest]

theorem addPolicy_withTables {p : PolicyRow} (hs : Claimed t.slots p.source)
    (hd : ∃ d ∈ t.destinations, d.id = p.destination) :
    (Work.addPolicy p).on (s.withTables t) = (.ok (), s.withTables (t.putPolicy p)) := by
  have hd' : (t.destinationAt p.destination).isSome = true := by
    obtain ⟨d, hd, hid⟩ := hd
    exact List.find?_isSome.2 ⟨d, hd, by simpa using hid⟩
  have hadd : t.addPolicy p = .ok (t.putPolicy p) := by
    unfold Tables.addPolicy Tables.putPolicy
    split
    · rfl
    · rw [if_pos ⟨Tables.slotAt_isSome_of_claimed hs, hd'⟩]
  rw [Work.addPolicy, call_withTables hp]
  exact update_withTables h.schema rfl hadd

theorem removePolicy_withTables (p : PolicyRow) :
    (Work.removePolicy p).on (s.withTables t) =
      if p ∈ t.policies then (.ok (), s.withTables (t.removePolicy p).2)
      else (.error .notFound, s.withTables t) := by
  rw [Work.removePolicy, call_withTables hp, bind_on, statement_withTables h.schema rfl]
  by_cases hmem : p ∈ t.policies
  · have hin : t.policies.contains p = true := by simpa using hmem
    simp only [Tables.removePolicy, hin, if_pos hmem]
    rfl
  · have hout : t.policies.contains p = false := by simpa using hmem
    have hkept : t.policies.filter (· ≠ p) = t.policies :=
      List.filter_eq_self.2 fun q hq => by simpa using ne_of_mem_of_not_mem hq hmem
    simp only [Tables.removePolicy, hout, hkept, if_neg hmem]
    rfl

theorem countByDestination_withTables (id : Int) :
    (Work.countByDestination id).on (s.withTables t) =
      (.ok (t.countByDestination id), s.withTables t) := by
  rw [Work.countByDestination, call_withTables hp, query_withTables h.schema rfl]

theorem removeDestination_withTables {id : Int} (hzero : t.countByDestination id = 0) :
    (Work.removeDestination id).on (s.withTables t) =
      (.ok (), s.withTables (t.dropUnpointed id)) := by
  have hnone : t.policies.any (·.destination = id) = false := by
    simpa using Tables.countByDestination_eq_zero.1 hzero
  have hremove : t.removeDestination id = .ok (t.dropUnpointed id) := by
    rw [Tables.removeDestination, Tables.dropUnpointed, if_pos hzero, hnone]
    rfl
  rw [Work.removeDestination, call_withTables hp]
  exact update_withTables h.schema rfl hremove

theorem countByGroup_withTables (group : Int) :
    (Work.countByGroup group).on (s.withTables t) =
      (.ok (t.countByGroup group), s.withTables t) := by
  rw [Work.countByGroup, call_withTables hp, query_withTables h.schema rfl]

theorem countReferencing_withTables (group : Int) :
    (Work.countReferencing group).on (s.withTables t) =
      (.ok (t.countReferencing group), s.withTables t) := by
  rw [Work.countReferencing, call_withTables hp, query_withTables h.schema rfl]

theorem dropRange_withTables (group : Int) :
    (Work.dropRange group).on (s.withTables t) = (.ok (), s.withTables (t.dropRange group)) := by
  rw [Work.dropRange, call_withTables hp]
  exact update_withTables h.schema rfl rfl

omit h in
theorem release_withTables (hs : t.schema = .complete) (id : Int) :
    (Work.release id).on (s.withTables t) = (.ok (), s.withTables (t.releaseSlot id)) := by
  rw [Work.release, call_withTables hp]
  exact update_withTables hs rfl rfl

theorem releaseUnused_withTables (group : Int) :
    (Store.releaseUnused group).on (s.withTables t) = (.ok (), s.withTables (t.giveUp group)) := by
  rw [Store.releaseUnused, bind_on, countByGroup_withTables hp h]
  simp only
  rw [bind_on, countReferencing_withTables hp h, Tables.giveUp]
  simp only
  split
  · have hdrop : (t.dropRange group).schema = .complete := h.schema
    rw [bind_on, dropRange_withTables hp h]
    simp only
    rw [release_withTables hp hdrop]
  · rfl

end Work

end NetworkPolicy
