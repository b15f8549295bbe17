import Mathlib.Algebra.GroupWithZero.Nat
import NetworkPolicy.Proofs.Upgrades

namespace NetworkPolicy.Migration

open Work

variable {recorded : List String} {migrations : List Migration}

section Due
variable (hn : (idsOf migrations).Nodup)
include hn

theorem pending_eq_due_append (limit : Nat) :
    pending recorded migrations = due recorded limit migrations ++
      pending (recorded ++ idsOf (due recorded limit migrations)) migrations := by
  obtain ⟨after, hsplit⟩ := due_isPrefix recorded limit migrations
  rw [pending_append hn hsplit.symm, hsplit]

theorem due_add {a b : Nat} (ha : 0 < a) (hb : 0 < b) :
    due recorded (a + b) migrations = due recorded a migrations ++
      due (recorded ++ idsOf (due recorded a migrations)) b migrations := by
  have hfirst : due recorded a migrations = (pending recorded migrations).take a :=
    if_neg (by omega)
  have hleft : pending (recorded ++ idsOf (due recorded a migrations)) migrations =
      (pending recorded migrations).drop a := by
    apply pending_append hn
    rw [hfirst, List.take_append_drop]
  have hsecond : due (recorded ++ idsOf (due recorded a migrations)) b migrations =
      ((pending recorded migrations).drop a).take b := by
    rw [← hleft]
    exact if_neg (by omega)
  rw [hsecond, hfirst, due, if_neg (by omega), List.take_add]

end Due

variable {s : Session} {d : Sql.Dialect}

theorem run_run (hopen : s.closed = false) (hn : (idsOf migrations).Nodup)
    {total first second : Nat} {t : Tables}
    (hsplit : due s.done total migrations = due s.done first migrations ++
      due (s.done ++ idsOf (due s.done first migrations)) second migrations)
    (hgood : (due s.done total migrations).foldlM (build d) s.database.tables = .ok t) :
    ∃ i j s₁ s₂, (perform d migrations first).on s = (.ok i, s₁) ∧
      (perform d migrations second).on s₁ = (.ok j, s₂) ∧
      (perform d migrations total).on s = (.ok (i + j), s₂) := by
  have hall := (perform_does hopen hn d total).finished t hgood
  rw [hsplit] at hgood
  obtain ⟨t₁, hfirst, hsecond⟩ := foldlM_append_eq_ok hgood
  have hone := (perform_does hopen hn d first).finished t₁ hfirst
  have htwo := (perform_does (s := s.withRecord t₁ (s.done ++ idsOf (due s.done first migrations)))
    hopen hn d second).finished t hsecond
  refine ⟨_, _, _, _, hone, htwo, hall.trans ?_⟩
  rw [hsplit, List.length_append, idsOf_append, ← List.append_assoc]
  rfl

/-- A run without a limit goes well exactly when all steps do that are not recorded. -/
theorem perform_zero_eq_ok (hopen : s.closed = false) (hn : (idsOf migrations).Nodup) :
    (∃ k s', (perform d migrations 0).on s = (.ok k, s')) ↔
      ∃ t, (pending s.done migrations).foldlM (build d) s.database.tables = .ok t := by
  have hdoes := perform_does hopen hn d 0
  refine ⟨?_, fun ⟨t, hgood⟩ => ⟨_, _, hdoes.finished t hgood⟩⟩
  rintro ⟨k, s', hrun⟩
  rcases finishes_or_stops d (pending s.done migrations) s.database.tables with
    hgood | ⟨before, m, t, f, hstop⟩
  · exact hgood
  · rw [hdoes.stopped before m t f hstop] at hrun
    cases hrun

theorem open_of_perform {limit k : Nat} {s' : Session}
    (h : (perform d migrations limit).on s = (.ok k, s')) : s.closed = false := by
  rw [perform, bind_on, connected_on] at h
  cases hclosed : s.closed with
  | false => rfl
  | true =>
    rw [hclosed] at h
    cases h

section All
variable (hn : (idsOf migrations).Nodup) {k : Nat} {final : Session}
  (hall : (perform d migrations 0).on s = (.ok k, final))
include hn hall

/-- A run with a limit leaves the rest to a run without one. -/
theorem run_then_all (limit : Nat) :
    ∃ i left s₁, (perform d migrations limit).on s = (.ok i, s₁) ∧
      (perform d migrations 0).on s₁ = (.ok left, final) ∧ k = i + left := by
  have hopen := open_of_perform hall
  obtain ⟨t, hgood⟩ := (perform_zero_eq_ok hopen hn).1 ⟨k, final, hall⟩
  have hsplit : due s.done 0 migrations = due s.done limit migrations ++
      due (s.done ++ idsOf (due s.done limit migrations)) 0 migrations :=
    pending_eq_due_append hn limit
  obtain ⟨i, left, s₁, s₂, hone, htwo, htotal⟩ := run_run hopen hn hsplit hgood
  cases hall.symm.trans htotal
  exact ⟨i, left, s₁, hone, htwo, rfl⟩

/-- By induction on the limits, each of which leaves the rest to those after it. -/
theorem runs_then_all (limits : List Nat) :
    ∃ counts left s₁, (limits.mapM (perform d migrations)).on s = (.ok counts, s₁) ∧
      (perform d migrations 0).on s₁ = (.ok left, final) ∧ k = counts.sum + left := by
  induction limits generalizing s k with
  | nil => exact ⟨[], k, s, rfl, hall, (Nat.zero_add k).symm⟩
  | cons limit limits ih =>
    obtain ⟨i, left, s₁, hone, hleft, rfl⟩ := run_then_all hn hall limit
    obtain ⟨counts, left', s₂, hmany, hleft', rfl⟩ := ih hleft
    refine ⟨i :: counts, left', s₂, ?_, hleft', ?_⟩
    · rw [List.mapM_cons, bind_on, hone]
      simp only
      rw [bind_on, hmany]
      rfl
    · rw [List.sum_cons, Nat.add_assoc]

theorem all_then_all : (perform d migrations 0).on final = (.ok 0, final) := by
  have hopen := open_of_perform hall
  obtain ⟨t, hgood⟩ := (perform_zero_eq_ok hopen hn).1 ⟨k, final, hall⟩
  have hrun := (perform_does hopen hn d 0).finished t hgood
  cases hall.symm.trans hrun
  refine perform_of_recorded (s := s.withRecord t _) hopen rfl (fun m hm => ?_) d 0
  by_cases hold : m.id ∈ s.done
  · exact List.mem_append_left _ hold
  · exact List.mem_append_right _ (List.mem_map.2 ⟨m, mem_pending.2 ⟨hm, hold⟩, rfl⟩)

end All

/-- When all the steps that are not recorded go well and can be committed, two runs with limits come
to the same as one with their sum, runs with any limits before one without a limit come to the same
as that one alone, and after it nothing is left to do. -/
theorem instalments_add_up {s : Session} (hopen : s.closed = false) (d : Sql.Dialect)
    {migrations : List Migration} (hn : (idsOf migrations).Nodup)
    (hgood : ∃ t, (pending s.done migrations).foldlM (build d) s.database.tables = .ok t) :
    (∀ a b, 0 < a → 0 < b → ∃ i j s₁ s₂, (perform d migrations a).on s = (.ok i, s₁) ∧
      (perform d migrations b).on s₁ = (.ok j, s₂) ∧
      (perform d migrations (a + b)).on s = (.ok (i + j), s₂)) ∧
    (∀ limits : List Nat, ∃ (counts : List Nat) (left : Nat) (s₁ s₂ : Session),
      (limits.mapM (perform d migrations)).on s = (.ok counts, s₁) ∧
      (perform d migrations 0).on s₁ = (.ok left, s₂) ∧
      (perform d migrations 0).on s = (.ok (counts.sum + left), s₂)) ∧
    ∀ k s', (perform d migrations 0).on s = (.ok k, s') →
      (perform d migrations 0).on s' = (.ok 0, s') := by
  refine ⟨fun a b ha hb => ?_, fun limits => ?_, fun k s' => all_then_all hn⟩
  · obtain ⟨t, hgood⟩ := hgood
    rw [pending_eq_due_append hn (a + b)] at hgood
    obtain ⟨t₁, hgood, -⟩ := foldlM_append_eq_ok hgood
    exact run_run hopen hn (due_add hn ha hb) hgood
  · obtain ⟨k, s₂, hall⟩ := (perform_zero_eq_ok hopen hn).2 hgood
    obtain ⟨counts, left, s₁, hmany, hleft, rfl⟩ := runs_then_all hn hall limits
    exact ⟨counts, left, s₁, s₂, hmany, hleft, hall⟩

/-- Of four steps the second is recorded. The limits count the others alone. -/
theorem instalments_add_up_past_recorded :
    let s : Session := { database := { recorded := some ["2"] } }
    let steps := [simple "1" fun _ => [.harmless], simple "2" fun _ => [.unreadable "BANANA"],
      simple "3" fun d => [.narrowGroups d], simple "4" fun d => [.ignoreClaims d]]
    let halfway := s.withRecord { schema := { groups := .idOnly } } ["2", "1", "3"]
    let final := s.withRecord { schema := { groups := .idOnly, claims := .ignored } }
      ["2", "1", "3", "4"]
    (idsOf steps).Nodup ∧
    (∃ t, (pending s.done steps).foldlM (build .sqlite) s.database.tables = .ok t) ∧
    (perform .sqlite steps 2).on s = (.ok 2, halfway) ∧
    (perform .sqlite steps 0).on s = (.ok 3, final) ∧
    (∃ i j s₁, (perform .sqlite steps 1).on s = (.ok i, s₁) ∧
      (perform .sqlite steps 1).on s₁ = (.ok j, halfway) ∧ i + j = 2) ∧
    (∃ (counts : List Nat) (left : Nat) (s₁ : Session),
      ([1, 1].mapM (perform .sqlite steps)).on s = (.ok counts, s₁) ∧
      (perform .sqlite steps 0).on s₁ = (.ok left, final) ∧ counts.sum + left = 3) ∧
    (perform .sqlite steps 0).on final = (.ok 0, final) := by
  intro s steps halfway final
  have hn : (idsOf steps).Nodup := by decide
  have hgood : ∃ t, (pending s.done steps).foldlM (build .sqlite) s.database.tables = .ok t :=
    ⟨_, rfl⟩
  have hhalf : (perform .sqlite steps 2).on s = (.ok 2, halfway) :=
    (perform_does (s := s) rfl hn .sqlite 2).finished _ rfl
  have hall : (perform .sqlite steps 0).on s = (.ok 3, final) :=
    (perform_does (s := s) rfl hn .sqlite 0).finished _ rfl
  obtain ⟨htwo, hmany, hagain⟩ := instalments_add_up (s := s) rfl .sqlite hn hgood
  refine ⟨hn, hgood, hhalf, hall, ?_, ?_, hagain 3 final hall⟩
  · obtain ⟨i, j, s₁, s₂, hfirst, hsecond, htotal⟩ := htwo 1 1 Nat.one_pos Nat.one_pos
    obtain ⟨hcount, rfl⟩ : i + j = 2 ∧ s₂ = halfway := by
      simpa using htotal.symm.trans hhalf
    exact ⟨i, j, s₁, hfirst, hsecond, hcount⟩
  · obtain ⟨counts, left, s₁, s₂, hruns, hleft, htotal⟩ := hmany [1, 1]
    obtain ⟨hcount, rfl⟩ : counts.sum + left = 3 ∧ s₂ = final := by
      simpa using htotal.symm.trans hall
    exact ⟨counts, left, s₁, hruns, hleft, hcount⟩

end NetworkPolicy.Migration
