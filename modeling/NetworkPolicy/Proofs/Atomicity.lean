import NetworkPolicy.Proofs.Calls
import NetworkPolicy.Store.Tags

namespace NetworkPolicy.Store

open Work

abbrev Event := Call × Option Failure

/-- The calls went well, but for rows that were not there and were passed over. -/
def Passed (l : List Event) : Prop :=
  ∀ x ∈ l, ∀ e, x.2 = some e → x.1.passesOver e = true

/-- The last call failed and was not passed over; the failure is its own, named after its stage. -/
def EndsWith (l : List Event) (f : Failure) : Prop :=
  ∃ earlier c e, l = earlier ++ [(c, some e)] ∧ Passed earlier ∧ c.passesOver e = false ∧
    f = .stage c.stage e

theorem EndsWith.append {l l' : List Event} {f : Failure} (hl : Passed l) (h : EndsWith l' f) :
    EndsWith (l ++ l') f := by
  obtain ⟨earlier, c, e, rfl, hp, hc, rfl⟩ := h
  refine ⟨l ++ earlier, c, e, (List.append_assoc _ _ _).symm, ?_, hc, rfl⟩
  intro x hx
  rcases List.mem_append.1 hx with hx | hx
  · exact hl x hx
  · exact hp x hx

namespace Script

end Script

/-- A transaction that fails puts the database back; it could not be begun, or failed within. -/
theorem transact_error {α : Type} {w : Work α} {s s' : Session} {f : Failure} {cause : Prop}
    (h : (transact w).on s = (.error f, s')) (hw : ∀ s'', w.on s = (.error f, s'') → cause) :
    s'.database = s.database ∧ if s.closed then f = .notBegun .poolClosed else cause := by
  rw [transact_on] at h
  split at h
  · next hc =>
    cases h
    exact ⟨rfl, by rw [if_pos hc]⟩
  · next hc =>
    rw [if_neg hc]
    rcases he : w.on s with ⟨e | a, s''⟩
    · rw [he] at h
      cases h
      exact ⟨rfl, hw _ he⟩
    · rw [he] at h
      cases h

section Tag
variable {s s' : Session} {guid type : String}

end Tag

def link (source destination protocol : String) (port : UInt16) : Policy :=
  { source := { id := source }, destination := { id := destination, protocol, port } }

end NetworkPolicy.Store
