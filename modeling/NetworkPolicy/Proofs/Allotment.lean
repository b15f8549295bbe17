import NetworkPolicy.Proofs.Atomicity
import NetworkPolicy.Proofs.Directory
import NetworkPolicy.Proofs.Requests
import NetworkPolicy.Proofs.Vacancies

namespace NetworkPolicy

namespace Tables

variable {size : Nat} {t t' : Tables} {batch : List Policy} {guid : String}

theorem exists_firstType (hg : guid ∈ Policy.names batch) :
    ∃ type, Policy.firstType batch guid = some type := by
  obtain ⟨p, hp, hnamed⟩ := List.mem_flatMap.1 hg
  refine Option.isSome_iff_exists.1 (List.findSome?_isSome_iff.2 ⟨p, hp, ?_⟩)
  rw [Policy.typeFor]
  split
  · rfl
  · next hne =>
    rw [(List.mem_pair.1 hnamed).resolve_left (Ne.symm hne), if_pos rfl]
    rfl

/-- A newcomer holds the slot that was free in its place, with the type that it was first named
with. -/
theorem slotOf_newcomer (h : t.Sound size) (he : t.enterAll batch = some t') {i : Nat}
    (hi : (t.newcomers (Policy.names batch))[i]? = some guid) :
    ∃ id type, t.vacancies[i]? = some id ∧ Policy.firstType batch guid = some type ∧
      t'.slotOf guid = some ⟨id, some guid, some type⟩ := by
  obtain ⟨h', -, -⟩ := h.enterAll he
  obtain ⟨id, hvacant, hnumber⟩ := (allotsTo_enterAll h he).numberOf_newcomer hi
  obtain ⟨s, hs, rfl⟩ := Option.map_eq_some_iff.1 hnumber
  obtain ⟨hnamed, hnew⟩ := mem_newcomers.1 (List.mem_of_getElem? hi)
  obtain ⟨type, htype⟩ := exists_firstType hnamed
  obtain ⟨-, hguid⟩ := (slotOf_eq_some h'.pool).1 hs
  -- it had no type before, so it has the one that the batch brings
  have hbrought : s.type = some type := by
    rw [← typeOf_of_slotOf hs, typeOf_enterAll h he,
      typeOf_of_slotOf_eq_none (slotOf_eq_none.2 hnew), Option.none_or, htype]
  refine ⟨s.id, type, hvacant, htype, ?_⟩
  rw [hs, ← hguid, ← hbrought]

end Tables

/-- When there are slots for all guids of a batch that hold none, it is created. In the order in
which they are first named they hold the lowest slots that were free, with the types that they are
first named with; whoever held a slot holds it still, with the type that it had. When slots are
wanting, nothing changes. -/
theorem creation_gives_lowest_slots (n : TagLength) (requests : List Request)
    (batch : List Policy) :
    let t := (served n requests).database.tables
    let newcomers := t.newcomers (Policy.names batch)
    newcomers.Nodup ∧ t.vacancies.Pairwise (· < ·) ∧
      (newcomers.length ≤ t.vacancies.length →
        ∃ s', (Store.create batch).on (served n requests) = (.ok (), s') ∧
          (∀ (i : Nat) guid, newcomers[i]? = some guid →
            ∃ id type, t.vacancies[i]? = some id ∧ Policy.firstType batch guid = some type ∧
              s'.database.tables.slotOf guid = some ⟨id, some guid, some type⟩) ∧
          (∀ guid slot, t.slotOf guid = some slot →
            s'.database.tables.slotOf guid = some slot) ∧
          s'.database.tables.vacancies = t.vacancies.drop newcomers.length) ∧
      (t.vacancies.length < newcomers.length →
        (Store.create batch).on (served n requests) =
          (.error (.stage "creating group" .poolExhausted), served n requests)) := by
  intro t newcomers
  have hs := serves_served n requests
  have h : t.Sound n.poolSize := hs.sound
  have hanswer := hs.create batch
  refine ⟨t.nodup_newcomers _, Tables.vacancies_ascending h.pool, fun hroom => ?_, fun hfull => ?_⟩
  · obtain ⟨t', he⟩ := Option.ne_none_iff_exists'.1
      (mt (Tables.enterAll_eq_none_iff_newcomers h).1 (Nat.not_lt.2 hroom))
    have hallots := Tables.allotsTo_enterAll h he
    rw [he] at hanswer
    exact ⟨_, hanswer, fun i guid hi => Tables.slotOf_newcomer h he hi, hallots.held,
      hallots.vacancies_eq_drop⟩
  · rw [(Tables.enterAll_eq_none_iff_newcomers h).2 hfull] at hanswer
    exact hanswer

/-- Two policies, of which the first was deleted again: the third and the fourth slot are held. -/
def gapRequests : List Request :=
  [.create [Store.link "a" "b" "tcp" 80, Store.link "c" "d" "udp" 53],
    .delete [Store.link "a" "b" "tcp" 80]]

def typedBatch : List Policy := [
  { source := { id := "d", type := "space" }
    destination := { id := "e", protocol := "tcp", port := 80 } },
  { source := { id := "f", type := "router" }
    destination := { id := "g", protocol := "tcp", port := 80, type := "space" } },
  { source := { id := "e", type := "router" }
    destination := { id := "f", protocol := "tcp", port := 80, type := "space" } }]

/-- In a pool with a gap: two newcomers fill it, the third comes behind the slots that are held, and
the guid that held a slot keeps its type. -/
theorem creation_gives_lowest_slots_in_gap :
    ∃ s', (Store.create typedBatch).on (served { bytes := 1 } gapRequests) = (.ok (), s') ∧
      s'.database.tables.slotOf "e" = some ⟨1, some "e", some "app"⟩ ∧
      s'.database.tables.slotOf "f" = some ⟨2, some "f", some "router"⟩ ∧
      s'.database.tables.slotOf "g" = some ⟨5, some "g", some "space"⟩ ∧
      s'.database.tables.slotOf "d" = some ⟨4, some "d", some "app"⟩ := by
  have hbefore : let t := (served { bytes := 1 } gapRequests).database.tables
      t.newcomers (Policy.names typedBatch) = ["e", "f", "g"] ∧ 3 ≤ t.vacancies.length ∧
        t.vacancies[0]? = some 1 ∧ t.vacancies[1]? = some 2 ∧ t.vacancies[2]? = some 5 ∧
        t.slotOf "d" = some ⟨4, some "d", some "app"⟩ := by
    rw [tables_served]
    decide +kernel
  obtain ⟨hnew, hroom, hfirst, hsecond, hthird, hheld⟩ := hbefore
  obtain ⟨-, -, hcreate, -⟩ := creation_gives_lowest_slots { bytes := 1 } gapRequests typedBatch
  rw [hnew] at hcreate
  obtain ⟨s', hcreated, hgiven, hkept, -⟩ := hcreate hroom
  have hgets : ∀ (i : Nat) guid id type, ["e", "f", "g"][i]? = some guid →
      (served { bytes := 1 } gapRequests).database.tables.vacancies[i]? = some id →
      Policy.firstType typedBatch guid = some type →
      s'.database.tables.slotOf guid = some ⟨id, some guid, some type⟩ := by
    intro i guid id type hi hid htype
    obtain ⟨id', type', hid', htype', hslot⟩ := hgiven i guid hi
    cases hid.symm.trans hid'
    cases htype.symm.trans htype'
    exact hslot
  exact ⟨s', hcreated, hgets 0 "e" 1 "app" rfl hfirst (by decide),
    hgets 1 "f" 2 "router" rfl hsecond (by decide), hgets 2 "g" 5 "space" rfl hthird (by decide),
    hkept "d" _ hheld⟩

end NetworkPolicy
