import NetworkPolicy.Payload.Conversion
import NetworkPolicy.Proofs.Json.Faithful

namespace NetworkPolicy

open Json Json.Reader

namespace Json.Codec

theorem legible_int64 : int64.Legible :=
  legible_integer "i64" Int64.ofInt_toInt fun a => ⟨a.le_toInt, by
    have hlt := a.toInt_lt
    omega⟩

theorem legible_uint64 (name : String) : (uint64 name).Legible :=
  legible_integer name (fun a => by simp) fun a => by
    have hlt : a.toNat < 2 ^ 64 := a.toNat_lt
    omega

end Json.Codec

open Json.Codec

namespace Payload

theorem Ports.legible : Ports.record.codec.Legible :=
  Record.legible (by decide) fun _ => ⟨_, .cons (steps_defaulted legible_int64)
    (.cons (steps_defaulted legible_int64) .nil), rfl⟩

theorem AddressRange.legible : AddressRange.record.codec.Legible :=
  Record.legible (by decide) fun _ => ⟨_, .cons (steps_defaulted legible_text)
    (.cons (steps_defaulted legible_text) .nil), rfl⟩

theorem Source.legible : Source.record.codec.Legible :=
  Record.legible (by decide) fun s => ⟨_, .cons (steps_defaulted legible_text)
    (.cons (steps_sparse legible_text) (.cons (steps_sparse legible_text) .nil)), by
      obtain ⟨id, tag, type⟩ := s
      by_cases htag : tag.isEmpty = true <;> by_cases htype : type.isEmpty = true <;>
        simp_all [Source.record]⟩

theorem Destination.legible : Destination.record.codec.Legible :=
  Record.legible (by decide) fun s => ⟨_, .cons (steps_defaulted legible_text)
    (.cons (steps_sparse legible_text) (.cons (steps_sparse legible_text)
    (.cons (steps_defaulted legible_text) (.cons (steps_defaulted Ports.legible)
    (.cons (steps_sparse AddressRange.legible.list) .nil))))), by
      obtain ⟨id, tag, type, protocol, ports, ranges⟩ := s
      by_cases htag : tag.isEmpty = true <;> by_cases htype : type.isEmpty = true <;>
        by_cases hranges : ranges.isEmpty = true <;> simp_all [Destination.record]⟩

theorem Policy.legible : Policy.record.codec.Legible :=
  Record.legible (by decide) fun _ => ⟨_, .cons (steps_defaulted Source.legible)
    (.cons (steps_defaulted Destination.legible) .nil), rfl⟩

theorem Policies.legible : Policies.record.codec.Legible :=
  Record.legible (by decide) fun _ => ⟨_, .cons (steps_defaulted (legible_uint64 "usize"))
    (.cons (steps_defaulted Policy.legible.list) .nil), rfl⟩

theorem Policies.faithful : Policies.record.codec.Faithful :=
  Policies.legible.faithful

end Payload

/-- A key of a request that is accepted: both ends are named, and the ports are a range. -/
structure Policy.Key.Valid (k : Policy.Key) : Prop where
  source : k.source ≠ ""
  destination : k.destination ≠ ""
  protocol : k.protocol = "tcp" ∨ k.protocol = "udp"
  first : 1 ≤ k.ports.first
  last : k.ports.first ≤ k.ports.last

/-- Both ends are addresses of one family, and the first is not after the last. -/
def AddressRange.Ordered (r : AddressRange) : Prop :=
  (∃ a b, Address.ofText? r.first = some (.v4 a) ∧ Address.ofText? r.last = some (.v4 b) ∧ a ≤ b) ∨
    ∃ a b, Address.ofText? r.first = some (.v6 a) ∧ Address.ofText? r.last = some (.v6 b) ∧ a ≤ b

/-- The port of a range of one port; any other range stands for none. -/
def Ports.single (p : Ports) : UInt16 :=
  if p.first = p.last then p.first else 0

/-- What a request that is accepted says beside keys: the single port is that of the range, and
ranges of addresses are ordered. -/
structure Policy.Proper (p : Policy) : Prop where
  port : p.destination.legacyPort = p.destination.portRange.single
  ranges : ∀ r ∈ p.destination.ranges, r.Ordered

namespace Payload

section Ports

theorem port_ne_zero {port : UInt16} (h : 1 ≤ port) : port ≠ 0 := by
  rintro rfl
  exact absurd h (by decide)

theorem toInt_toInt64 (port : UInt16) : port.toNat.toInt64.toInt = port.toNat := by
  have hlt : port.toNat < 2 ^ 16 := port.toNat_lt
  exact Int64.toInt_ofNat_of_lt (by omega)

theorem toInt_highestPort : highestPort.toInt = 65535 :=
  rfl

theorem toNat_storedPort {n : Int64} (hlow : 0 ≤ n) (hhigh : n ≤ highestPort) :
    ((storedPort n).toNat : Int) = n.toInt := by
  have hlow' : 0 ≤ n.toInt := Int64.le_iff_toInt_le.1 hlow
  have hhigh' : n.toInt ≤ 65535 := Int64.le_iff_toInt_le.1 hhigh
  rw [storedPort, if_pos ⟨hlow, hhigh⟩, UInt64.toNat_toUInt16, Int64.toNat_toUInt64_of_le hlow,
    Int64.toNatClampNeg]
  omega

theorem storedPort_toInt64 (port : UInt16) : storedPort port.toNat.toInt64 = port := by
  have hlt : port.toNat < 2 ^ 16 := port.toNat_lt
  have hint := toInt_toInt64 port
  have hstored := toNat_storedPort (n := port.toNat.toInt64)
    (Int64.le_iff_toInt_le.2 (by rw [hint]; exact Int.natCast_nonneg _))
    (Int64.le_iff_toInt_le.2 (by rw [hint, toInt_highestPort]; omega))
  rw [hint] at hstored
  exact UInt16.toNat_inj.1 (Int.natCast_inj.1 hstored)

end Ports

section Check

theorem forM_eq_ok {α ε : Type} {f : α → Except ε Unit} {l : List α} :
    l.forM f = .ok () ↔ ∀ a ∈ l, f a = .ok () := by
  induction l with
  | nil => simp [pure, Except.pure]
  | cons a l ih =>
    rw [List.forall_mem_cons, ← ih]
    show Except.bind (f a) (fun _ => l.forM f) = _ ↔ _
    cases f a with
    | error e => simp [Except.bind]
    | ok u => simp [Except.bind]

theorem forM_eq_error {α ε : Type} {f : α → Except ε Unit} {l : List α} {e : ε} :
    l.forM f = .error e ↔
      ∃ before a after, l = before ++ a :: after ∧ (∀ b ∈ before, f b = .ok ()) ∧ f a = .error e := by
  induction l with
  | nil => simp [pure, Except.pure]
  | cons a l ih =>
    have hcons : (a :: l).forM f = Except.bind (f a) fun _ => l.forM f := rfl
    rw [hcons]
    constructor
    · intro h
      cases ha : f a with
      | error e' =>
        rw [ha] at h
        cases h
        exact ⟨[], a, l, rfl, by simp, ha⟩
      | ok u =>
        rw [ha] at h
        obtain ⟨before, b, after, rfl, hbefore, hb⟩ := ih.1 h
        exact ⟨a :: before, b, after, rfl, List.forall_mem_cons.2 ⟨ha, hbefore⟩, hb⟩
    · rintro ⟨_ | ⟨c, before⟩, b, after, hl, hbefore, hb⟩ <;> obtain ⟨rfl, rfl⟩ := List.cons.inj hl
      · rw [hb]
        rfl
      · obtain ⟨ha, hbefore⟩ := List.forall_mem_cons.1 hbefore
        rw [ha]
        exact ih.2 ⟨before, b, after, rfl, hbefore, hb⟩

theorem ite_throw_eq_ok {ε : Type} {c : Prop} [Decidable c] {e : ε} {next : Except ε Unit} :
    (if c then (throw e : Except ε PUnit) >>= fun _ => next else next) = .ok () ↔
      ¬ c ∧ next = .ok () := by
  by_cases hc : c
  · simp [hc, throw, throwThe, MonadExceptOf.throw, bind, Except.bind]
  · simp [hc]

theorem ite_throw_eq_error {ε : Type} {c : Prop} [Decidable c] {e e' : ε}
    {next : Except ε Unit} :
    (if c then (throw e : Except ε PUnit) >>= fun _ => next else next) = .error e' ↔
      c ∧ e = e' ∨ ¬ c ∧ next = .error e' := by
  by_cases hc : c
  · simp [hc, throw, throwThe, MonadExceptOf.throw, bind, Except.bind]
  · simp [hc]

theorem check_eq_ok {p : Policy} : p.check = .ok () ↔
    p.source.id ≠ "" ∧ p.destination.id ≠ "" ∧
      (p.destination.protocol = "tcp" ∨ p.destination.protocol = "udp") ∧
      (1 ≤ p.destination.ports.first ∧ p.destination.ports.first ≤ p.destination.ports.last ∧
        p.destination.ports.last ≤ highestPort) ∧
      p.destination.ranges.forM AddressRange.check = .ok () := by
  simp only [Policy.check, Destination.check, ite_throw_eq_ok, String.isEmpty_iff, not_or,
    Int64.not_lt, not_and_or, not_not, ne_eq]

section Range

variable {ports : Ports} (hfirst : 1 ≤ ports.first) (hlast : ports.first ≤ ports.last)
  (hhigh : ports.last ≤ highestPort)
include hfirst hlast hhigh

theorem toNat_storedPorts : ((storedPort ports.first).toNat : Int) = ports.first.toInt ∧
    ((storedPort ports.last).toNat : Int) = ports.last.toInt := by
  have hzero : (0 : Int64) ≤ 1 := by decide
  have hlow := Int64.le_trans hzero hfirst
  exact ⟨toNat_storedPort hlow (Int64.le_trans hlast hhigh),
    toNat_storedPort (Int64.le_trans hlow hlast) hhigh⟩

theorem valid_ports :
    1 ≤ storedPort ports.first ∧ storedPort ports.first ≤ storedPort ports.last := by
  have hfirst' : 1 ≤ ports.first.toInt := Int64.le_iff_toInt_le.1 hfirst
  have hlast' : ports.first.toInt ≤ ports.last.toInt := Int64.le_iff_toInt_le.1 hlast
  obtain ⟨h₁, h₂⟩ := toNat_storedPorts hfirst hlast hhigh
  have hone : (1 : UInt16).toNat = 1 := rfl
  exact ⟨UInt16.le_iff_toNat_le.2 (by omega), UInt16.le_iff_toNat_le.2 (by omega)⟩

end Range

theorem portRange_toStored {p : Policy} (hlow : 1 ≤ storedPort p.destination.ports.first) :
    p.toStored.destination.portRange =
      ⟨storedPort p.destination.ports.first, storedPort p.destination.ports.last⟩ :=
  if_neg fun hzero => port_ne_zero hlow hzero.1

theorem valid_toStored {p : Policy} (h : p.check = .ok ()) : p.toStored.key.Valid := by
  obtain ⟨hsource, hdestination, hprotocol, ⟨hfirst, hlast, hhigh⟩, -⟩ := check_eq_ok.1 h
  obtain ⟨hlow, hle⟩ := valid_ports hfirst hlast hhigh
  have hrange := portRange_toStored hlow
  refine ⟨hsource, hdestination, hprotocol, ?_, ?_⟩
  · show 1 ≤ p.toStored.destination.portRange.first
    rwa [hrange]
  · show p.toStored.destination.portRange.first ≤ p.toStored.destination.portRange.last
    rwa [hrange]

theorem checkRange_eq_ok {r : AddressRange} : r.check = .ok () ↔
    ∃ a b, Address.ofText? r.first = some a ∧ Address.ofText? r.last = some b ∧
      a.notAfter b = true := by
  rw [AddressRange.check, readAddress, readAddress]
  cases Address.ofText? r.first with
  | none => simp [bind, Except.bind]
  | some a =>
    cases Address.ofText? r.last with
    | none => simp [bind, Except.bind]
    | some b =>
      by_cases hab : a.notAfter b = true <;>
        simp [bind, Except.bind, pure, Except.pure, throw, throwThe, MonadExceptOf.throw, hab]

theorem notAfter_iff_ordered {r : AddressRange} {a b : Address}
    (hfirst : Address.ofText? r.first = some a) (hlast : Address.ofText? r.last = some b) :
    a.notAfter b = true ↔ r.toStored.Ordered := by
  cases a <;> cases b <;>
    simp [NetworkPolicy.AddressRange.Ordered, AddressRange.toStored, Address.notAfter, hfirst, hlast]

theorem ordered_toStored {r : AddressRange} (h : r.check = .ok ()) : r.toStored.Ordered := by
  obtain ⟨a, b, hfirst, hlast, hab⟩ := checkRange_eq_ok.1 h
  exact (notAfter_iff_ordered hfirst hlast).1 hab

theorem proper_toStored {p : Policy} (h : p.check = .ok ()) : p.toStored.Proper := by
  obtain ⟨-, -, -, ⟨hfirst, hlast, hhigh⟩, hranges⟩ := check_eq_ok.1 h
  obtain ⟨hlow, -⟩ := valid_ports hfirst hlast hhigh
  constructor
  · have hport : p.toStored.destination.port =
        if storedPort p.destination.ports.first = storedPort p.destination.ports.last then
          storedPort p.destination.ports.first else 0 := rfl
    rw [Destination.legacyPort, portRange_toStored hlow, hport, Ports.single]
    by_cases hsame : storedPort p.destination.ports.first = storedPort p.destination.ports.last
    · rw [if_pos hsame, if_pos (port_ne_zero hlow)]
    · rw [if_neg hsame, if_neg (not_not_intro rfl)]
  · intro r hr
    obtain ⟨q, hq, rfl⟩ := List.mem_map.1 hr
    exact ordered_toStored (forM_eq_ok.1 hranges q (List.mem_of_mem_take hq))

theorem checked_of_check {policies : List Policy} (h : check policies = .ok ()) :
    ∀ p ∈ policies, p.check = .ok () := by
  simp only [check, ite_throw_eq_ok] at h
  exact forM_eq_ok.1 h.2

theorem accept_eq_ok {check : List Policy → Except Fault Unit} {body : ByteArray}
    {batch : List NetworkPolicy.Policy} :
    accept check body = .ok batch ↔ ∃ request, Policies.record.codec.parseBytes body = .ok request ∧
      check request.policies = .ok () ∧ batch = request.policies.map Policy.toStored := by
  rw [accept]
  cases Policies.record.codec.parseBytes body with
  | error e => simp [Except.mapError, bind, Except.bind]
  | ok request =>
    cases hchecked : check request.policies <;>
      simp [Except.mapError, bind, Except.bind, pure, Except.pure, hchecked, eq_comm]

theorem valid_of_accept {body : ByteArray} {batch : List NetworkPolicy.Policy}
    (h : accept check body = .ok batch) : ∀ p ∈ batch, p.key.Valid := by
  obtain ⟨request, -, hchecked, rfl⟩ := accept_eq_ok.1 h
  intro p hp
  obtain ⟨q, hq, rfl⟩ := List.mem_map.1 hp
  exact valid_toStored (checked_of_check hchecked q hq)

theorem proper_of_accept {body : ByteArray} {batch : List NetworkPolicy.Policy}
    (h : accept check body = .ok batch) : ∀ p ∈ batch, p.Proper := by
  obtain ⟨request, -, hchecked, rfl⟩ := accept_eq_ok.1 h
  intro p hp
  obtain ⟨q, hq, rfl⟩ := List.mem_map.1 hp
  exact proper_toStored (checked_of_check hchecked q hq)

end Check

section Listing

/-- A policy as it comes back from a listing. -/
def relisted (p : NetworkPolicy.Policy) : NetworkPolicy.Policy :=
  (Policy.ofStored p).toStored

variable {p : NetworkPolicy.Policy} (hports : p.destination.portRange = p.destination.ports)
  (hvalid : p.key.Valid)
include hports hvalid

theorem key_relisted : (relisted p).key = p.key := by
  have hfirst : 1 ≤ p.destination.ports.first := hports ▸ hvalid.first
  have hrange : (relisted p).destination.portRange = p.destination.ports := by
    have hsame : (relisted p).destination.ports = p.destination.ports := by
      show (⟨storedPort p.destination.ports.first.toNat.toInt64,
        storedPort p.destination.ports.last.toNat.toInt64⟩ : NetworkPolicy.Ports) = _
      rw [storedPort_toInt64, storedPort_toInt64]
    rw [Destination.portRange, hsame]
    exact if_neg fun hzero => port_ne_zero hfirst hzero.1
  rw [Policy.key, Policy.key, hrange, hports]
  rfl

theorem check_ofStored : (Policy.ofStored p).check = .ok () := by
  have hfirst : 1 ≤ p.destination.ports.first := hports ▸ hvalid.first
  have hlast : p.destination.ports.first ≤ p.destination.ports.last := hports ▸ hvalid.last
  have hfirst' : 1 ≤ p.destination.ports.first.toNat := UInt16.le_iff_toNat_le.1 hfirst
  have hlast' := UInt16.le_iff_toNat_le.1 hlast
  have hlt : p.destination.ports.last.toNat < 2 ^ 16 := p.destination.ports.last.toNat_lt
  have hone : (1 : Int64).toInt = 1 := rfl
  refine check_eq_ok.2 ⟨hvalid.source, hvalid.destination, hvalid.protocol, ⟨?_, ?_, ?_⟩, rfl⟩
  · show 1 ≤ p.destination.ports.first.toNat.toInt64
    rw [Int64.le_iff_toInt_le, toInt_toInt64, hone]
    omega
  · show p.destination.ports.first.toNat.toInt64 ≤ p.destination.ports.last.toNat.toInt64
    rw [Int64.le_iff_toInt_le, toInt_toInt64, toInt_toInt64]
    omega
  · show p.destination.ports.last.toNat.toInt64 ≤ highestPort
    rw [Int64.le_iff_toInt_le, toInt_toInt64, toInt_highestPort]
    omega

end Listing

/-- A listing of valid policies is accepted, as the same policies without types and ranges. -/
theorem accept_listing {policies : List NetworkPolicy.Policy} (hne : policies ≠ [])
    (hports : ∀ p ∈ policies, p.destination.portRange = p.destination.ports)
    (hvalid : ∀ p ∈ policies, p.key.Valid) :
    accept check (listing policies).toUTF8 = .ok (policies.map relisted) := by
  have hchecked : check (policies.map Policy.ofStored) = .ok () := by
    simp only [check, ite_throw_eq_ok]
    refine ⟨by simpa using hne, forM_eq_ok.2 fun q hq => ?_⟩
    obtain ⟨p, hp, rfl⟩ := List.mem_map.1 hq
    exact check_ofStored (hports p hp) (hvalid p hp)
  refine accept_eq_ok.2 ⟨.ofStored policies, Policies.faithful.parseBytes_print _, hchecked, ?_⟩
  show _ = (policies.map Policy.ofStored).map Policy.toStored
  rw [List.map_map]
  rfl

end Payload

end NetworkPolicy
