import NetworkPolicy.Migration
import NetworkPolicy.Proofs.Outcome

namespace NetworkPolicy

def Session.withRecord (s : Session) (t : Tables) (ids : List String) : Session :=
  { s with database := { tables := t, recorded := some ids } }

def Session.done (s : Session) : List String :=
  s.database.recorded.getD []

namespace Session
variable (s : Session) (t : Tables) (ids : List String)

@[simp] theorem withRecord_tables : (s.withRecord t ids).database.tables = t := rfl
@[simp] theorem withRecord_closed : (s.withRecord t ids).closed = s.closed := rfl

@[simp] theorem withRecord_withTables (t' : Tables) :
    (s.withRecord t ids).withTables t' = s.withRecord t' ids := rfl

end Session

namespace Migration

open Work

def runAll (statements : List Statement) (t : Tables) : Except Sql.Fault Tables :=
  statements.foldlM (fun t a => a.run t) t

/-- What a step makes of the tables, when its statements go well and it can be committed. -/
def build (d : Sql.Dialect) (t : Tables) (m : Migration) : Except Failure Tables :=
  match runAll (m.statements d) t with
  | .error fault => .error (.migration m.id fault)
  | .ok t' =>
    match m.commit d t' with
    | .error fault => .error (.notCommitted fault)
    | .ok () => .ok t'

def idsOf (migrations : List Migration) : List String :=
  migrations.map (·.id)

theorem idsOf_append (a b : List Migration) : idsOf (a ++ b) = idsOf a ++ idsOf b :=
  List.map_append

def pending (recorded : List String) (migrations : List Migration) : List Migration :=
  migrations.filter (·.id ∉ recorded)

/-- The steps that a run does: those that are not recorded, up to the limit; zero is no limit. -/
def due (recorded : List String) (limit : Nat) (migrations : List Migration) : List Migration :=
  if limit = 0 then pending recorded migrations else (pending recorded migrations).take limit

/-- What stops a step: a statement fails, after those in front of it went well, or all of them go
well and what they leave behind is refused. -/
inductive Breaks (d : Sql.Dialect) (m : Migration) (t : Tables) : Failure → Prop where
  | statement {earlier a later t' fault} : m.statements d = earlier ++ a :: later →
      runAll earlier t = .ok t' → a.run t' = .error fault → Breaks d m t (.migration m.id fault)
  | commit {t' fault} : runAll (m.statements d) t = .ok t' → m.commit d t' = .error fault →
      Breaks d m t (.notCommitted fault)

/-- The steps of `before` make `t'` of the tables, and the step `m` comes next and is stopped. -/
structure StopsAt (d : Sql.Dialect) (todo : List Migration) (t : Tables) (before : List Migration)
    (m : Migration) (t' : Tables) (f : Failure) : Prop where
  next : before ++ [m] <+: todo
  before_ok : before.foldlM (build d) t = .ok t'
  breaks : Breaks d m t' f

/-- The work does the steps of `todo`, one after the other. When all of them succeed, they are
counted, and recorded behind those that were. When a step is stopped, there is no effect of it and
of those after it, and those before it are done and recorded. -/
structure Does (d : Sql.Dialect) (w : Work Nat) (todo : List Migration) (s : Session) : Prop where
  finished : ∀ t, todo.foldlM (build d) s.database.tables = .ok t →
    w.on s = (.ok todo.length, s.withRecord t (s.done ++ idsOf todo))
  stopped : ∀ before m t f, StopsAt d todo s.database.tables before m t f →
    w.on s = (.error f, s.withRecord t (s.done ++ idsOf before))

section Fold
variable {α σ ε : Type} {f : σ → α → Except ε σ}

theorem foldlM_cons_ok {a : α} {l : List α} {x y : σ} (h : f x a = .ok y) :
    (a :: l).foldlM f x = l.foldlM f y := by
  rw [List.foldlM_cons, h]
  rfl

theorem foldlM_cases (l : List α) (x : σ) :
    (∃ y, l.foldlM f x = .ok y) ∨ ∃ before a after y e, l = before ++ a :: after ∧
      before.foldlM f x = .ok y ∧ f y a = .error e := by
  induction l generalizing x with
  | nil => exact .inl ⟨x, rfl⟩
  | cons a l ih =>
    cases ha : f x a with
    | error e => exact .inr ⟨[], a, l, x, e, rfl, rfl, ha⟩
    | ok y =>
      rcases ih y with ⟨z, hz⟩ | ⟨before, b, after, z, e, rfl, hz, hb⟩
      · exact .inl ⟨z, (foldlM_cons_ok ha).trans hz⟩
      · exact .inr ⟨a :: before, b, after, z, e, rfl, (foldlM_cons_ok ha).trans hz, hb⟩

theorem foldlM_append_ok {before after : List α} {x y : σ} (h : before.foldlM f x = .ok y) :
    (before ++ after).foldlM f x = after.foldlM f y := by
  rw [List.foldlM_append, h]
  rfl

theorem foldlM_append_eq_ok {before after : List α} {x z : σ}
    (h : (before ++ after).foldlM f x = .ok z) :
    ∃ y, before.foldlM f x = .ok y ∧ after.foldlM f y = .ok z := by
  rw [List.foldlM_append] at h
  cases hy : before.foldlM f x with
  | error e =>
    rw [hy] at h
    cases h
  | ok y =>
    rw [hy] at h
    exact ⟨y, rfl, h⟩

theorem foldlM_stopped {before after : List α} {a : α} {x y : σ} {e : ε}
    (h : before.foldlM f x = .ok y) (ha : f y a = .error e) :
    (before ++ a :: after).foldlM f x = .error e := by
  rw [foldlM_append_ok h, List.foldlM_cons, ha]
  rfl

end Fold

variable {d : Sql.Dialect}

theorem Breaks.build_eq {m : Migration} {t : Tables} {f : Failure} (h : Breaks d m t f) :
    build d t m = .error f := by
  cases h with
  | @statement earlier a later _ fault hsplit hearlier ha =>
    have hstatements : runAll (earlier ++ a :: later) t = .error fault :=
      foldlM_stopped hearlier ha
    rw [build, hsplit, hstatements]
  | commit hstatements hcommit =>
    rw [build, hstatements]
    simp only [hcommit]

theorem breaks_of_build {m : Migration} {t : Tables} {f : Failure} (h : build d t m = .error f) :
    Breaks d m t f := by
  rcases foldlM_cases (f := fun t (a : Statement) => a.run t) (m.statements d) t with
    ⟨t', hgood⟩ | ⟨earlier, a, later, t', fault, hsplit, hearlier, ha⟩
  · have hstatements : runAll (m.statements d) t = .ok t' := hgood
    rw [build, hstatements] at h
    cases hcommit : m.commit d t' with
    | ok _ =>
      simp only [hcommit] at h
      cases h
    | error fault =>
      simp only [hcommit] at h
      cases h
      exact .commit hstatements hcommit
  · have hbreaks : Breaks d m t (.migration m.id fault) := .statement hsplit hearlier ha
    cases h.symm.trans hbreaks.build_eq
    exact hbreaks

theorem finishes_or_stops (d : Sql.Dialect) (todo : List Migration) (t : Tables) :
    (∃ t', todo.foldlM (build d) t = .ok t') ∨
      ∃ before m t' f, StopsAt d todo t before m t' f := by
  rcases foldlM_cases (f := build d) todo t with hall | ⟨before, m, after, t', f, rfl, hb, hm⟩
  · exact .inl hall
  · exact .inr ⟨before, m, t', f, ⟨after, by simp⟩, hb, breaks_of_build hm⟩

section Step
variable {s : Session} {t t' : Tables} {m : Migration} {done : List String}

theorem runStatement_on (id : String) (a : Statement) (s : Session) :
    (runStatement id a).on s =
      match a.run s.database.tables with
      | .ok t => (.ok (), s.withTables t)
      | .error fault => (.error (.migration id fault), s) := by
  rw [runStatement, bind_on, tables_on]
  simp only
  cases a.run s.database.tables <;> rfl

/-- By induction on the statements: they change the tables alone, and the first one that fails
names the step. -/
theorem statements_on (id : String) (statements : List Statement) (s : Session) :
    ∃ t', (statements.forM (runStatement id)).on s =
      match runAll statements s.database.tables with
      | .ok t => (.ok (), s.withTables t)
      | .error fault => (.error (.migration id fault), s.withTables t') := by
  induction statements generalizing s with
  | nil => exact ⟨s.database.tables, rfl⟩
  | cons a rest ih =>
    rw [forM_cons_on, runStatement_on, runAll, List.foldlM_cons]
    cases a.run s.database.tables with
    | error fault => exact ⟨s.database.tables, rfl⟩
    | ok t => exact ih (s.withTables t)

theorem record_withRecord (t : Tables) {id : String} (hid : id ∉ done) :
    (record id).on (s.withRecord t done) = (.ok (), s.withRecord t (done ++ [id])) := by
  have hopened : openRecord.on (s.withRecord t done) = (.ok done, s.withRecord t done) := rfl
  rw [record, bind_on, hopened]
  simp only [if_neg hid]
  rfl

theorem conclude_on (m : Migration) (d : Sql.Dialect) (s : Session) :
    (m.conclude d).on s =
      match m.commit d s.database.tables with
      | .ok () => (.ok (), s)
      | .error fault => (.error (.notCommitted fault), s) := by
  rw [conclude, bind_on, tables_on]
  simp only
  cases m.commit d s.database.tables <;> rfl

/-- A step that is not recorded is done and recorded, or leaves no trace. -/
theorem apply_withRecord (hopen : s.closed = false) (t : Tables) (hm : m.id ∉ done) :
    (m.apply d).on (s.withRecord t done) =
      match build d t m with
      | .ok t' => (.ok (), s.withRecord t' (done ++ [m.id]))
      | .error f => (.error f, s.withRecord t done) := by
  obtain ⟨t'', hstatements⟩ := statements_on m.id (m.statements d) (s.withRecord t done)
  rw [Session.withRecord_tables] at hstatements
  rw [apply, transact_on, Session.withRecord_closed, hopen, bind_on, hstatements, build]
  cases runAll (m.statements d) t with
  | error fault => rfl
  | ok t' =>
    have hrecord := record_withRecord (s := s) t' hm
    simp only [Bool.false_eq_true, if_false, Session.withRecord_withTables]
    rw [bind_on, hrecord]
    simp only [conclude_on, Session.withRecord_tables]
    cases m.commit d t' <;> rfl

/-- By induction on the steps: when none of them is recorded and all succeed, all are done. -/
theorem forM_apply_withRecord (hopen : s.closed = false) {todo : List Migration}
    (hb : todo.foldlM (build d) t = .ok t') (hn : (idsOf todo).Nodup)
    (hnew : ∀ m ∈ todo, m.id ∉ done) :
    (todo.forM (apply d)).on (s.withRecord t done) =
      (.ok (), s.withRecord t' (done ++ idsOf todo)) := by
  induction todo generalizing t done with
  | nil =>
    cases hb
    rw [idsOf, List.map_nil, List.append_nil]
    rfl
  | cons m rest ih =>
    obtain ⟨hfirst, hrest⟩ := List.nodup_cons.1 hn
    rw [forM_cons_on, apply_withRecord hopen t (hnew m List.mem_cons_self)]
    cases hm : build d t m with
    | error f =>
      rw [List.foldlM_cons, hm] at hb
      cases hb
    | ok t₁ =>
      rw [foldlM_cons_ok hm] at hb
      have hlater : ∀ q ∈ rest, q.id ∉ done ++ [m.id] := by
        intro q hq hmem
        rcases List.mem_append.1 hmem with hmem | hmem
        · exact hnew q (List.mem_cons_of_mem _ hq) hmem
        · exact hfirst (List.mem_map.2 ⟨q, hq, List.mem_singleton.1 hmem⟩)
      simp only
      rw [ih hb hrest hlater, List.append_assoc]
      rfl

end Step

section Run
variable {s : Session} {recorded : List String} {migrations : List Migration} {m : Migration}

theorem pending_cons_of_mem (hm : m.id ∈ recorded) :
    pending recorded (m :: migrations) = pending recorded migrations :=
  List.filter_cons_of_neg (by simpa using hm)

theorem pending_cons_of_not_mem (hm : m.id ∉ recorded) :
    pending recorded (m :: migrations) = m :: pending recorded migrations :=
  List.filter_cons_of_pos (by simpa using hm)

theorem mem_pending : m ∈ pending recorded migrations ↔ m ∈ migrations ∧ m.id ∉ recorded := by
  simp [pending]

theorem pending_of_recorded (h : ∀ m ∈ migrations, m.id ∈ recorded) :
    pending recorded migrations = [] :=
  List.eq_nil_iff_forall_not_mem.2 fun m hm => (mem_pending.1 hm).2 (h m (mem_pending.1 hm).1)

/-- By induction on the steps: those that are recorded are passed over and not counted. -/
theorem applyPending_eq (d : Sql.Dialect) (recorded : List String) (limit : Nat)
    (migrations : List Migration) (count : Nat) :
    applyPending d recorded limit migrations count =
      let todo := if limit = 0 then pending recorded migrations
        else (pending recorded migrations).take (limit - count)
      (do todo.forM (apply d); return count + todo.length) := by
  induction migrations generalizing count with
  | nil =>
    have hnone : (if limit = 0 then pending recorded []
        else (pending recorded []).take (limit - count)) = [] := by
      simp [pending]
    simp only [hnone]
    rfl
  | cons m rest ih =>
    by_cases hm : m.id ∈ recorded
    · rw [applyPending, if_pos hm, ih, pending_cons_of_mem hm]
    · rw [applyPending, if_neg hm, pending_cons_of_not_mem hm]
      by_cases hfull : 0 < limit ∧ limit ≤ count
      · rw [if_pos hfull, if_neg (by omega), Nat.sub_eq_zero_of_le hfull.2, List.take_zero]
        rfl
      · have htodo : (if limit = 0 then m :: pending recorded rest
            else (m :: pending recorded rest).take (limit - count)) =
            m :: if limit = 0 then pending recorded rest
              else (pending recorded rest).take (limit - (count + 1)) := by
          by_cases hlimit : limit = 0
          · rw [if_pos hlimit, if_pos hlimit]
          · rw [if_neg hlimit, if_neg hlimit, List.take_cons (by omega), Nat.sub_sub]
        rw [if_neg hfull, htodo, ih]
        generalize (if limit = 0 then pending recorded rest
          else (pending recorded rest).take (limit - (count + 1))) = todo
        have hcount : count + 1 + todo.length = count + (m :: todo).length := by
          rw [List.length_cons]
          omega
        simp only [hcount]
        exact (bind_assoc (m.apply d) (fun _ => todo.forM (apply d)) _).symm

theorem perform_on (hopen : s.closed = false) (d : Sql.Dialect) (migrations : List Migration)
    (limit : Nat) :
    (perform d migrations limit).on s =
      match ((due s.done limit migrations).forM (apply d)).on
        (s.withRecord s.database.tables s.done) with
      | (.ok (), s') => (.ok (due s.done limit migrations).length, s')
      | (.error f, s') => (.error f, s') := by
  have hrecord : openRecord.on s = (.ok s.done, s.withRecord s.database.tables s.done) := rfl
  rw [perform, bind_on, connected_on, hopen]
  simp only [Bool.false_eq_true, if_false]
  rw [bind_on, hrecord]
  simp only [applyPending_eq, Nat.sub_zero, Nat.zero_add]
  rw [bind_on, ← due]
  obtain ⟨_ | _, _⟩ := ((due s.done limit migrations).forM (apply d)).on
    (s.withRecord s.database.tables s.done) <;> rfl

theorem perform_of_recorded (hopen : s.closed = false) (hr : s.database.recorded = some recorded)
    (h : ∀ m ∈ migrations, m.id ∈ recorded) (d : Sql.Dialect) (limit : Nat) :
    (perform d migrations limit).on s = (.ok 0, s) := by
  have hdone : s.done = recorded := by rw [Session.done, hr, Option.getD_some]
  have hdue : due s.done limit migrations = [] := by
    rw [due, hdone, pending_of_recorded h, List.take_nil, ite_self]
  have hself : s.withRecord s.database.tables s.done = s := by
    rw [hdone, Session.withRecord, ← hr]
  rw [perform_on hopen, hdue, hself]
  rfl

theorem due_isPrefix (recorded : List String) (limit : Nat) (migrations : List Migration) :
    due recorded limit migrations <+: pending recorded migrations := by
  unfold due
  split
  · exact List.prefix_rfl
  · exact List.take_prefix _ _

theorem due_sublist (recorded : List String) (limit : Nat) (migrations : List Migration) :
    (due recorded limit migrations).Sublist migrations :=
  (due_isPrefix recorded limit migrations).sublist.trans List.filter_sublist

theorem not_recorded_of_mem_due {limit : Nat} (hm : m ∈ due recorded limit migrations) :
    m.id ∉ recorded :=
  (mem_pending.1 ((due_isPrefix recorded limit migrations).subset hm)).2

/-- A run does the steps that are due. -/
theorem perform_does (hopen : s.closed = false) (hn : (idsOf migrations).Nodup) (d : Sql.Dialect)
    (limit : Nat) : Does d (perform d migrations limit) (due s.done limit migrations) s := by
  have hdistinct : (idsOf (due s.done limit migrations)).Nodup :=
    hn.sublist ((due_sublist _ _ _).map _)
  constructor
  · intro t hall
    rw [perform_on hopen, forM_apply_withRecord hopen hall hdistinct
      fun _ => not_recorded_of_mem_due]
  · intro before m t f hstop
    obtain ⟨after, htodo⟩ := hstop.next
    have hmem : ∀ q ∈ before ++ [m], q ∈ due s.done limit migrations :=
      fun q hq => htodo ▸ List.mem_append_left after hq
    rw [← htodo, List.append_assoc, idsOf_append, List.nodup_append] at hdistinct
    obtain ⟨hbefore, -, hafter⟩ := hdistinct
    -- the step that fails is not among those before it, and was not recorded
    have hm : m.id ∉ s.done ++ idsOf before := by
      intro hrecorded
      rcases List.mem_append.1 hrecorded with hrecorded | hrecorded
      · exact not_recorded_of_mem_due (hmem m (by simp)) hrecorded
      · exact hafter _ hrecorded m.id List.mem_cons_self rfl
    have hfirst := forM_apply_withRecord hopen hstop.before_ok hbefore
      fun q hq => not_recorded_of_mem_due (hmem q (List.mem_append_left _ hq))
    rw [perform_on hopen, ← htodo, List.append_assoc, forM_append_on, hfirst]
    simp only [List.singleton_append]
    rw [forM_cons_on, apply_withRecord hopen t hm, hstop.breaks.build_eq]

theorem pending_append (hn : (idsOf migrations).Nodup) {before after : List Migration}
    (hsplit : pending recorded migrations = before ++ after) :
    pending (recorded ++ idsOf before) migrations = after := by
  have hdistinct : (idsOf (before ++ after)).Nodup := by
    rw [← hsplit]
    exact hn.sublist (List.filter_sublist.map _)
  rw [idsOf_append, List.nodup_append] at hdistinct
  have htwice : pending (recorded ++ idsOf before) migrations =
      (pending recorded migrations).filter (·.id ∉ idsOf before) := by
    rw [pending, pending, List.filter_filter]
    apply List.filter_congr
    intro q _
    simp [Bool.and_comm]
  have hgone : before.filter (·.id ∉ idsOf before) = [] :=
    List.filter_eq_nil_iff.2 fun q hq => by simpa [idsOf] using ⟨q, hq, rfl⟩
  have hkept : after.filter (·.id ∉ idsOf before) = after := by
    refine List.filter_eq_self.2 fun q hq => decide_eq_true fun hmem => ?_
    exact hdistinct.2.2 q.id hmem q.id (List.mem_map.2 ⟨q, hq, rfl⟩) rfl
  rw [htwice, hsplit, List.filter_append, hgone, hkept, List.nil_append]

theorem mem_recorded_of_front (hn : (idsOf migrations).Nodup) {before after : List Migration}
    (hsplit : pending recorded migrations = before ++ m :: after) {ids : List String}
    (hids : ids ++ [m.id] <+: idsOf migrations) : ∀ id ∈ ids, id ∈ recorded ++ idsOf before := by
  obtain ⟨others, hids⟩ := hids
  have hleft : (idsOf migrations).filter (· ∉ recorded ++ idsOf before) = m.id :: idsOf after := by
    rw [show idsOf migrations = migrations.map (·.id) from rfl, List.filter_map]
    exact congrArg idsOf (pending_append hn hsplit)
  rw [← hids, List.append_assoc, List.nodup_append] at hn
  rw [← hids, List.append_assoc, List.filter_append] at hleft
  -- else the first id that is left would be one of them, and it is that of the step
  cases hkept : ids.filter (· ∉ recorded ++ idsOf before) with
  | nil =>
    refine fun id hid => Decidable.byContradiction fun hnot => ?_
    have hmem : id ∈ ids.filter (· ∉ recorded ++ idsOf before) :=
      List.mem_filter.2 ⟨hid, decide_eq_true hnot⟩
    rw [hkept] at hmem
    cases hmem
  | cons id rest =>
    rw [hkept] at hleft
    have hmem : id ∈ ids := (List.mem_filter.1 (hkept ▸ List.mem_cons_self)).1
    exact absurd (List.cons.inj hleft).1 (hn.2.2 id hmem m.id (by simp))

/-- After the step of a list that failed comes, in a list that is the same up to it, that step. -/
theorem due_after_stop (hn : (idsOf migrations).Nodup) {limit : Nat} {before : List Migration}
    {t t' : Tables} {f : Failure}
    (hstop : StopsAt d (due recorded limit migrations) t before m t' f)
    {front back : List Migration} {m' : Migration}
    (hsame : idsOf (front ++ [m']) <+: idsOf migrations) (hm' : m'.id = m.id) (limit' : Nat) :
    ∃ rest, due (recorded ++ idsOf before) limit' (front ++ m' :: back) = m' :: rest := by
  obtain ⟨after, hsplit⟩ := hstop.next.trans (due_isPrefix _ _ _)
  have hsplit' : pending recorded migrations = before ++ m :: after := by
    rw [← hsplit, List.append_assoc, List.singleton_append]
  rw [idsOf_append, idsOf, idsOf, List.map_singleton, hm'] at hsame
  have hfront := mem_recorded_of_front hn hsplit' hsame
  have hnone : pending (recorded ++ idsOf before) front = [] :=
    pending_of_recorded fun q hq => hfront q.id (List.mem_map.2 ⟨q, hq, rfl⟩)
  have hnew : m'.id ∉ recorded ++ idsOf before := by
    have hmem : m ∈ pending (recorded ++ idsOf before) migrations :=
      pending_append hn hsplit' ▸ List.mem_cons_self
    exact hm' ▸ (mem_pending.1 hmem).2
  have hpending : pending (recorded ++ idsOf before) (front ++ m' :: back) =
      m' :: pending (recorded ++ idsOf before) back := by
    rw [← pending_cons_of_not_mem hnew, ← List.nil_append (pending _ (m' :: back)), ← hnone]
    exact List.filter_append _ _
  unfold due
  rw [hpending]
  by_cases hlimit : limit' = 0
  · exact ⟨_, if_pos hlimit⟩
  · rw [if_neg hlimit, List.take_cons (by omega)]
    exact ⟨_, rfl⟩

end Run

/-- A run does the steps that are not recorded, in order and up to its limit. Either all of them go
well, or one of them is stopped, by a statement that fails or by what its statements leave behind.
Then a later run of a list that is the same up to that step begins with it, whatever its statements
have become. -/
theorem run_does_due_steps {s : Session} (hopen : s.closed = false) (d : Sql.Dialect)
    {migrations : List Migration} (hn : (idsOf migrations).Nodup) (limit : Nat) :
    let t := s.database.tables
    let todo := due s.done limit migrations
    Does d (perform d migrations limit) todo s ∧
    ((∃ t', todo.foldlM (build d) t = .ok t') ∨ ∃ before m t' f, StopsAt d todo t before m t' f) ∧
    ∀ before m t' f, StopsAt d todo t before m t' f →
      let s' := s.withRecord t' (s.done ++ idsOf before)
      ∀ front m' back, idsOf (front ++ [m']) <+: idsOf migrations → m'.id = m.id →
        (idsOf (front ++ m' :: back)).Nodup → ∀ limit', ∃ rest,
          due s'.done limit' (front ++ m' :: back) = m' :: rest ∧
          Does d (perform d (front ++ m' :: back) limit') (m' :: rest) s' := by
  intro t todo
  refine ⟨perform_does hopen hn d limit, finishes_or_stops d todo t, ?_⟩
  intro before m t' f hstop s' front m' back hsame hm' hn' limit'
  obtain ⟨rest, hrest⟩ := due_after_stop hn hstop hsame hm' limit'
  have hagain := perform_does (s := s') hopen hn' d limit'
  exact ⟨rest, hrest, hrest ▸ hagain⟩

def simple (id : String) (statements : Sql.Dialect → List Statement) : Migration where
  id := id
  statements := statements

/-- A step whose statement goes well, but what it leaves behind is refused. -/
def dangling (id : String) : Migration where
  id := id
  statements _ := [.harmless]
  commit _ _ := .error .danglingReference

/-- Of five steps the second is recorded, a statement of the third is none, and the fourth cannot be
committed. -/
def broken : List Migration := [
  simple "1" fun d => [.narrowGroups d], simple "2" fun _ => [.unreadable "BANANA"],
  simple "3" fun d => [.ignoreClaims d, .unreadable "BANANA"], dangling "4",
  simple "5" fun _ => [.harmless]]

/-- The first step is done, and the third leaves nothing behind, also not what its first statement
did. Once it is repaired, a later run begins with it, and stops at the fourth. -/
theorem run_does_due_steps_until_broken :
    let s : Session := { database := { recorded := some ["2"] } }
    let s' := s.withRecord { schema := { groups := .idOnly } } ["2", "1"]
    let third := simple "3" fun _ => [.harmless]
    let repaired := [simple "1" fun _ => [.unreadable "BANANA"], simple "2" fun _ => [], third,
      dangling "4"]
    (idsOf broken).Nodup ∧ (perform .sqlite broken 0).on s =
      (.error (.migration "3" (.unreadableNear "BANANA")), s') ∧
    (∃ rest, due s'.done 1 repaired = third :: rest ∧
      Does .sqlite (perform .sqlite repaired 1) (third :: rest) s') ∧
    (perform .sqlite repaired 0).on s' = (.error (.notCommitted .danglingReference),
      s.withRecord { schema := { groups := .idOnly } } ["2", "1", "3"]) := by
  intro s s' third repaired
  have hn : (idsOf broken).Nodup := by decide
  obtain ⟨hdoes, -, hlater⟩ := run_does_due_steps (s := s) rfl .sqlite hn 0
  have hstop : StopsAt .sqlite (due s.done 0 broken) {}
      [simple "1" fun d => [.narrowGroups d]]
      (simple "3" fun d => [.ignoreClaims d, .unreadable "BANANA"])
      { schema := { groups := .idOnly } } (.migration "3" (.unreadableNear "BANANA")) :=
    ⟨⟨[dangling "4", simple "5" fun _ => [.harmless]], rfl⟩, rfl,
      @Breaks.statement _ _ _ [.ignoreClaims .sqlite] (.unreadable "BANANA") [] _ _ rfl rfl rfl⟩
  have hrefused : StopsAt .sqlite (due s'.done 0 repaired) { schema := { groups := .idOnly } }
      [third] (dangling "4") { schema := { groups := .idOnly } }
      (.notCommitted .danglingReference) :=
    ⟨⟨[], rfl⟩, rfl, .commit rfl rfl⟩
  refine ⟨hn, hdoes.stopped _ _ _ _ hstop, ?_, ?_⟩
  · exact hlater _ _ _ _ hstop [simple "1" fun _ => [.unreadable "BANANA"], simple "2" fun _ => []]
      third [dangling "4"] ⟨["4", "5"], rfl⟩ rfl (by decide) 1
  · obtain ⟨hagain, -, -⟩ := run_does_due_steps (s := s') rfl .sqlite
      (by decide : (idsOf repaired).Nodup) 0
    exact hagain.stopped _ _ _ _ hrefused

end Migration

end NetworkPolicy
