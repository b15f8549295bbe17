import NetworkPolicy.Proofs.Entries
import NetworkPolicy.Proofs.Uninterrupted
import NetworkPolicy.Store.Tags

namespace NetworkPolicy

theorem readPort_toNat (column : PortColumn) (port : UInt16) :
    readPort column (port.toNat : Int) = .ok port := by
  have hlt : port.toNat < 2 ^ 16 := port.toNat_lt
  have hsize : UInt32.size = 2 ^ 32 := rfl
  have hmod : (port.toNat : Int).bmod UInt32.size = port.toNat := by
    rw [hsize]
    refine Int.bmod_eq_of_le ?_ ?_ <;> omega
  have hport : UInt16.size = 2 ^ 16 := rfl
  have hfits : 0 ≤ (port.toNat : Int) ∧ (port.toNat : Int) < UInt16.size := by
    rw [hport]
    omega
  simp only [readPort, hmod, if_pos hfits, Int.toNat_natCast, Nat.toUInt16_eq, UInt16.ofNat_toNat]

namespace Entry

/-- The policy that is shown for the entry. -/
def policy (n : TagLength) (e : Entry) : Policy where
  source := ⟨e.source.guid.getD "", n.format e.source.id, e.source.type.getD ""⟩
  destination := {
    id := e.group.guid.getD ""
    tag := n.format e.group.id
    protocol := e.destination.protocol
    port := e.destination.port.toNat.toUInt16
    ports := ⟨e.destination.first.toNat.toUInt16, e.destination.last.toNat.toUInt16⟩
    type := e.group.type.getD ""
    ranges := e.ranges }

variable {n : TagLength} {e : Entry} {d : Destination} {group : Int}

theorem read_eq (hkey : e.destination.toDestinationKey = Store.destinationKey group d)
    (hport : e.destination.port = d.legacyPort.toNat) : e.read n = .ok (e.policy n) := by
  have hfirst : e.destination.first = d.portRange.first.toNat := congrArg DestinationKey.first hkey
  have hlast : e.destination.last = d.portRange.last.toNat := congrArg DestinationKey.last hkey
  simp only [read, policy, hport, hfirst, hlast, readPort_toNat, Int.toNat_natCast,
    Nat.toUInt16_eq, UInt16.ofNat_toNat]
  rfl

theorem legacyPort_eq_zero (hfirst : d.portRange.first = 0) (hlast : d.portRange.last = 0) :
    d.legacyPort = 0 := by
  have hport : d.port = 0 := by
    by_contra hport
    unfold Destination.portRange at hfirst hlast
    split at hfirst
    · exact hport hfirst
    · next hnot =>
      rw [if_neg hnot] at hlast
      exact hnot ⟨hfirst, hlast, hport⟩
  rw [Destination.legacyPort, if_neg (by simpa using hport), if_pos (hfirst.trans hlast.symm),
    hfirst]

/-- What is shown has the key of the entry. -/
theorem key_policy (hkey : e.destination.toDestinationKey = Store.destinationKey group d)
    (hport : e.destination.port = d.legacyPort.toNat) : (e.policy n).key = e.key := by
  have hfirst : e.destination.first.toNat.toUInt16 = d.portRange.first := by
    rw [show e.destination.first = d.portRange.first.toNat from congrArg DestinationKey.first hkey]
    simp
  have hlast : e.destination.last.toNat.toUInt16 = d.portRange.last := by
    rw [show e.destination.last = d.portRange.last.toNat from congrArg DestinationKey.last hkey]
    simp
  have hlegacy : e.destination.port.toNat.toUInt16 = d.legacyPort := by
    rw [hport]
    simp
  -- the row is not taken for a single port without a range
  have hnot : ¬ (d.portRange.first = 0 ∧ d.portRange.last = 0 ∧ d.legacyPort ≠ 0) :=
    fun hzero => hzero.2.2 (legacyPort_eq_zero hzero.1 hzero.2.1)
  have hrange : (e.policy n).destination.portRange = (e.policy n).destination.ports := by
    rw [← hfirst, ← hlast, ← hlegacy] at hnot
    exact if_neg hnot
  rw [Policy.key, hrange]
  rfl

end Entry

/-- By induction on the list: what is read of each is read of all. -/
theorem mapM_eq_ok {α β : Type} {f : α → Except Failure β} {g : α → β} {l : List α}
    (h : ∀ a ∈ l, f a = .ok (g a)) : l.mapM f = .ok (l.map g) := by
  induction l with
  | nil => rfl
  | cons a rest ih =>
    have hrest : rest.mapM f = .ok (rest.map g) :=
      ih fun b hb => h b (List.mem_cons_of_mem _ hb)
    rw [List.mapM_cons, h a List.mem_cons_self, hrest]
    rfl

namespace Tables

variable {size : Nat} {t : Tables} {e : Entry} {n : TagLength}

theorem read_of_mem (h : t.Coherent size) (he : e ∈ t.entries) : e.read n = .ok (e.policy n) := by
  obtain ⟨hj, -⟩ := (mem_entries h).1 he
  obtain ⟨d, hkey, hport⟩ := h.written _ hj.destination
  exact Entry.read_eq hkey hport

theorem key_policy_of_mem (h : t.Coherent size) (he : e ∈ t.entries) :
    (e.policy n).key = e.key := by
  obtain ⟨hj, -⟩ := (mem_entries h).1 he
  obtain ⟨d, hkey, hport⟩ := h.written _ hj.destination
  exact Entry.key_policy hkey hport

theorem map_key_policy (h : t.Coherent size) :
    (t.entries.map (Entry.policy n)).map Policy.key = t.keys := by
  rw [List.map_map, keys]
  exact List.map_congr_left fun e he => key_policy_of_mem h he

theorem stores_policy (h : t.Coherent size) :
    List.Forall₂ t.Stores t.policies ((t.entries.map (Entry.policy n)).map Policy.key) := by
  rw [map_key_policy h]
  exact stores_keys h

theorem map_id_tags (t : Tables) (n : TagLength) :
    (t.slots.filterMap (Store.tagOf? n)).map (·.id) = t.guids := by
  rw [List.map_filterMap, guids]
  apply List.filterMap_congr
  intro s _
  cases hg : s.guid <;> simp [Store.tagOf?, hg]

end Tables

namespace Store

open Work

variable {size : Nat} {s : Session} {t : Tables} (hopen : s.closed = false) (h : t.Coherent size)
include hopen h

theorem listWhere_withTables (n : TagLength) (selects : Entry → Bool) :
    (listWhere n selects).on (s.withTables t) =
      (.ok ((t.entries.filter selects).map (Entry.policy n)), s.withTables t) := by
  have hread : (t.entries.filter selects).mapM (Entry.read n) =
      .ok ((t.entries.filter selects).map (Entry.policy n)) :=
    mapM_eq_ok fun e he => Tables.read_of_mem h (List.mem_of_mem_filter he)
  rw [listWhere, staged_on, bind_on, connected_on, Session.withTables_closed, hopen]
  simp only [Bool.false_eq_true, if_false]
  rw [bind_on, query_withTables h.schema rfl]
  simp only [attempt_on, hread]

theorem all_withTables (n : TagLength) :
    (all n).on (s.withTables t) = (.ok (t.entries.map (Entry.policy n)), s.withTables t) := by
  rw [all, listWhere_withTables hopen h, List.filter_true]

theorem byGuids_withTables (n : TagLength) (selection : Selection) :
    (byGuids n selection).on (s.withTables t) =
      (.ok (if selection.sources.isEmpty ∧ selection.destinations.isEmpty then []
        else (t.entries.filter selection.selects).map (Entry.policy n)), s.withTables t) := by
  rw [byGuids]
  split
  · exact pure_on _ _
  · exact listWhere_withTables hopen h n selection.selects

theorem tags_withTables (n : TagLength) :
    (tags n).on (s.withTables t) = (.ok (t.slots.filterMap (tagOf? n)), s.withTables t) := by
  rw [tags, staged_on, bind_on, connected_on, Session.withTables_closed, hopen]
  simp only [Bool.false_eq_true, if_false]
  rw [query_withTables h.schema rfl]

end Store

end NetworkPolicy
