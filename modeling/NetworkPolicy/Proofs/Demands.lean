import NetworkPolicy.Proofs.Payloads

namespace NetworkPolicy.Payload

structure Demand where
  met : Prop
  fault : Fault

/-- The fault is that of the first demand that is not met. -/
def FirstUnmet (demands : List Demand) (fault : Fault) : Prop :=
  ∃ earlier d later, demands = earlier ++ d :: later ∧ (∀ e ∈ earlier, e.met) ∧ ¬ d.met ∧
    d.fault = fault

@[simp]
theorem firstUnmet_nil {fault : Fault} : ¬ FirstUnmet [] fault := by
  rintro ⟨earlier, d, later, h, -⟩
  exact List.append_ne_nil_of_right_ne_nil _ (by simp) h.symm

theorem firstUnmet_cons {d : Demand} {demands : List Demand} {fault : Fault} :
    FirstUnmet (d :: demands) fault ↔
      ¬ d.met ∧ d.fault = fault ∨ d.met ∧ FirstUnmet demands fault := by
  constructor
  · rintro ⟨_ | ⟨c, earlier⟩, e, later, h, hearlier, hunmet, hfault⟩ <;>
      obtain ⟨rfl, rfl⟩ := List.cons.inj h
    · exact .inl ⟨hunmet, hfault⟩
    · obtain ⟨hmet, hearlier⟩ := List.forall_mem_cons.1 hearlier
      exact .inr ⟨hmet, earlier, e, later, rfl, hearlier, hunmet, hfault⟩
  · rintro (⟨hunmet, hfault⟩ | ⟨hmet, earlier, e, later, rfl, hearlier, hunmet, hfault⟩)
    · exact ⟨[], d, demands, rfl, by simp, hunmet, hfault⟩
    · exact ⟨d :: earlier, e, later, rfl, List.forall_mem_cons.2 ⟨hmet, hearlier⟩, hunmet, hfault⟩

theorem firstUnmet_append {ds es : List Demand} {fault : Fault} :
    FirstUnmet (ds ++ es) fault ↔
      FirstUnmet ds fault ∨ (∀ d ∈ ds, d.met) ∧ FirstUnmet es fault := by
  induction ds with
  | nil => simp
  | cons d ds ih =>
    rw [List.cons_append, firstUnmet_cons, firstUnmet_cons, ih, List.forall_mem_cons, and_or_left,
      or_assoc, and_assoc]

/-- The check accepts what meets all demands, and names the first that is not met. -/
structure Decides (check : Except Fault Unit) (demands : List Demand) : Prop where
  accepts : check = .ok () ↔ ∀ d ∈ demands, d.met
  names : ∀ fault, check = .error fault ↔ FirstUnmet demands fault

namespace Decides

variable {c next : Except Fault Unit} {demands others : List Demand}

theorem nil : Decides (.ok ()) [] :=
  ⟨by simp, by simp⟩

theorem guard {fault : Fault} {p q : Prop} [Decidable p] (hp : ¬ p ↔ q)
    (h : Decides next demands) :
    Decides (if p then (throw fault : Except Fault PUnit) >>= fun _ => next else next)
      (⟨q, fault⟩ :: demands) where
  accepts := by rw [ite_throw_eq_ok, h.accepts, hp, List.forall_mem_cons]
  names found := by rw [ite_throw_eq_error, h.names, firstUnmet_cons, ← hp, not_not]

theorem bind (hc : Decides c demands) (hnext : Decides next others) :
    Decides (c >>= fun _ => next) (demands ++ others) := by
  cases c with
  | ok u =>
    have hmet := hc.accepts.1 rfl
    refine ⟨?_, fun fault => ?_⟩
    · rw [List.forall_mem_append]
      exact hnext.accepts.trans ⟨fun h => ⟨hmet, h⟩, And.right⟩
    · have hnone : ¬ FirstUnmet demands fault := fun h => nomatch (hc.names fault).2 h
      rw [firstUnmet_append]
      exact (hnext.names fault).trans ⟨fun h => .inr ⟨hmet, h⟩, fun h => (h.resolve_left hnone).2⟩
  | error e =>
    have hunmet : ¬ ∀ d ∈ demands, d.met := fun h => nomatch hc.accepts.2 h
    refine ⟨⟨nofun, fun h => absurd (List.forall_mem_append.1 h).1 hunmet⟩, fun fault => ?_⟩
    rw [firstUnmet_append]
    exact (hc.names fault).trans ⟨.inl, fun h => h.resolve_right fun h => hunmet h.1⟩

theorem forM {α : Type} {check : α → Except Fault Unit} {demands : α → List Demand}
    (h : ∀ a, Decides (check a) (demands a)) (l : List α) :
    Decides (l.forM check) (l.flatMap demands) := by
  induction l with
  | nil => exact nil
  | cons a l ih => exact (h a).bind ih

end Decides

/-- Both ends are addresses, and they are ordered. -/
def AddressRange.demands (r : AddressRange) : List Demand :=
  [⟨(Address.ofText? r.first).isSome, .address r.first⟩,
    ⟨(Address.ofText? r.last).isSome, .address r.last⟩,
    ⟨r.toStored.Ordered, .range r.first r.last⟩]

def Destination.demands (d : Destination) : List Demand :=
  ⟨d.id ≠ "", .noDestination⟩ ::
    ⟨d.protocol = "tcp" ∨ d.protocol = "udp", .protocol d.protocol⟩ ::
    ⟨1 ≤ d.ports.first.toInt ∧ d.ports.first.toInt ≤ d.ports.last.toInt ∧
      d.ports.last.toInt ≤ 65535, .ports d.ports.first d.ports.last⟩ ::
    d.ranges.flatMap AddressRange.demands

/-- What is demanded of a policy, in the order in which it is looked at. -/
def Policy.demands (p : Policy) : List Demand :=
  ⟨p.source.id ≠ "", .noSource⟩ :: p.destination.demands

theorem AddressRange.decides (r : AddressRange) : Decides r.check r.demands := by
  cases hfirst : Address.ofText? r.first with
  | none =>
    have hchecked : r.check = .error (.address r.first) := by
      rw [AddressRange.check, readAddress, hfirst]
      rfl
    constructor <;> simp [hchecked, demands, firstUnmet_cons, hfirst]
  | some a =>
    cases hlast : Address.ofText? r.last with
    | none =>
      have hchecked : r.check = .error (.address r.last) := by
        rw [AddressRange.check, readAddress, readAddress, hfirst, hlast]
        rfl
      constructor <;> simp [hchecked, demands, firstUnmet_cons, hfirst, hlast]
    | some b =>
      have hchecked : r.check = if a.notAfter b then .ok () else .error (.range r.first r.last) := by
        rw [AddressRange.check, readAddress, readAddress, hfirst, hlast]
        rfl
      have hordered := notAfter_iff_ordered hfirst hlast
      cases hab : a.notAfter b <;> rw [hab] at hordered hchecked <;>
        constructor <;> simp [hchecked, demands, firstUnmet_cons, hfirst, hlast, ← hordered]

theorem ports_iff {ports : Ports} :
    ¬ (ports.first < 1 ∨ ports.last < ports.first ∨ highestPort < ports.last) ↔
      1 ≤ ports.first.toInt ∧ ports.first.toInt ≤ ports.last.toInt ∧ ports.last.toInt ≤ 65535 := by
  have hone : (1 : Int64).toInt = 1 := rfl
  rw [Int64.lt_iff_toInt_lt, Int64.lt_iff_toInt_lt, Int64.lt_iff_toInt_lt, hone, toInt_highestPort]
  omega

theorem Destination.decides (d : Destination) : Decides d.check d.demands :=
  .guard (by rw [String.isEmpty_iff]) <| .guard (by rw [not_and_or, not_not, not_not]) <|
    .guard ports_iff <| .forM AddressRange.decides _

theorem Policy.decides (p : Policy) : Decides p.check p.demands :=
  .guard (by rw [String.isEmpty_iff]) p.destination.decides

/-- What a policy is to be like in order to be accepted. -/
structure Policy.Valid (p : Policy) : Prop where
  source : p.source.id ≠ ""
  destination : p.destination.id ≠ ""
  protocol : p.destination.protocol = "tcp" ∨ p.destination.protocol = "udp"
  first : 1 ≤ p.destination.ports.first.toInt
  last : p.destination.ports.first.toInt ≤ p.destination.ports.last.toInt
  high : p.destination.ports.last.toInt ≤ 65535
  ranges : ∀ r ∈ p.destination.ranges, r.toStored.Ordered

theorem AddressRange.demands_met {r : AddressRange} :
    (∀ d ∈ r.demands, d.met) ↔ r.toStored.Ordered := by
  simp only [demands, List.forall_mem_cons]
  refine ⟨fun h => h.2.2.1, fun h => ?_⟩
  have haddresses : (Address.ofText? r.first).isSome ∧ (Address.ofText? r.last).isSome := by
    obtain ⟨a, b, hfirst, hlast, -⟩ | ⟨a, b, hfirst, hlast, -⟩ := h <;>
      exact ⟨Option.isSome_of_eq_some hfirst, Option.isSome_of_eq_some hlast⟩
  exact ⟨haddresses.1, haddresses.2, h, by simp⟩

theorem Policy.valid_iff {p : Policy} : p.Valid ↔ ∀ d ∈ p.demands, d.met := by
  simp only [demands, Destination.demands, List.forall_mem_cons, List.forall_mem_flatMap,
    AddressRange.demands_met]
  constructor
  · intro h
    exact ⟨h.source, h.destination, h.protocol, ⟨h.first, h.last, h.high⟩, h.ranges⟩
  · rintro ⟨hsource, hdestination, hprotocol, ⟨hfirst, hlast, hhigh⟩, hranges⟩
    exact ⟨hsource, hdestination, hprotocol, hfirst, hlast, hhigh, hranges⟩

theorem Policy.check_iff_valid {p : Policy} : p.check = .ok () ↔ p.Valid :=
  p.decides.accepts.trans valid_iff.symm

/-- A request is accepted when it has policies and all of them are valid. Otherwise the fault that
is named is that it has none, or the first demand that its first policy that is not valid fails. -/
theorem check_names_first_fault (policies : List Policy) :
    (check policies = .ok () ↔ policies ≠ [] ∧ ∀ p ∈ policies, p.Valid) ∧
      ∀ fault, check policies = .error fault ↔
        policies = [] ∧ fault = .noPolicies ∨
          ∃ before p after, policies = before ++ p :: after ∧ (∀ q ∈ before, q.Valid) ∧
            FirstUnmet p.demands fault := by
  constructor
  · rw [check, ite_throw_eq_ok, forM_eq_ok, List.isEmpty_iff]
    simp only [Policy.check_iff_valid]
  · intro fault
    rw [check, ite_throw_eq_error, forM_eq_error, List.isEmpty_iff]
    simp only [Policy.check_iff_valid, (Policy.decides _).names]
    refine or_congr (and_congr_right' eq_comm) (and_iff_right_of_imp ?_)
    rintro ⟨before, p, after, rfl, -⟩
    simp

end NetworkPolicy.Payload
