import NetworkPolicy.Store.Batch

namespace NetworkPolicy

/-- The session with other tables. -/
def Session.withTables (s : Session) (t : Tables) : Session :=
  { s with database := { s.database with tables := t } }

namespace Session
variable (s : Session) (t : Tables)

@[simp] theorem withTables_tables : (s.withTables t).database.tables = t := rfl
@[simp] theorem withTables_closed : (s.withTables t).closed = s.closed := rfl

@[simp] theorem withTables_withTables (t' : Tables) :
    (s.withTables t).withTables t' = s.withTables t' := rfl

end Session

namespace Work

variable {α β : Type}

/-- What comes of work that is done on a session. -/
def on (w : Work α) (s : Session) : Except Failure α × Session :=
  w.run.run s

variable (s : Session)

@[simp] theorem pure_on (a : α) : (pure a : Work α).on s = (.ok a, s) := rfl
@[simp] theorem get_on : (get : Work Session).on s = (.ok s, s) := rfl
@[simp] theorem modify_on (g : Session → Session) :
    (modify g : Work Unit).on s = (.ok (), g s) := rfl

@[simp] theorem tables_on : tables.on s = (.ok s.database.tables, s) := rfl

theorem bind_on (w : Work α) (k : α → Work β) :
    (w >>= k).on s =
      match w.on s with
      | (.ok a, s') => (k a).on s'
      | (.error f, s') => (.error f, s') := by
  show (match w.on s with | (r, s') => ExceptT.bindCont k r s') = _
  obtain ⟨_ | _, _⟩ := w.on s <;> rfl

theorem map_on (g : α → β) (w : Work α) : (g <$> w).on s = ((w.on s).1.map g, (w.on s).2) := by
  simp only [on, ExceptT.run_map, StateT.run_map]
  rfl

theorem tryCatch_on (w : Work α) (h : Failure → Work α) :
    (tryCatch w h).on s =
      match w.on s with
      | (.ok a, s') => (.ok a, s')
      | (.error f, s') => (h f).on s' := by
  simp only [on, tryCatch, tryCatchThe, MonadExceptOf.tryCatch, ExceptT.tryCatch, ExceptT.run,
    ExceptT.mk, StateT.run_bind]
  obtain ⟨_ | _, _⟩ := StateT.run w s <;> rfl

theorem staged_on (name : String) (w : Work α) :
    (staged name w).on s =
      match w.on s with
      | (.ok a, s') => (.ok a, s')
      | (.error f, s') => (.error (.stage name f), s') := by
  rw [staged, tryCatch_on]
  rfl

theorem connected_on :
    connected.on s = if s.closed then (.error (.sql .poolClosed), s) else (.ok (), s) := by
  simp only [connected, bind_on, get_on]
  split <;> rfl

@[simp] theorem attempt_on (r : Except Failure α) : (attempt r).on s = (r, s) := by
  cases r <;> rfl

/-- A statement that is refused or fails leaves everything as it was. -/
theorem statement_on (demands : Schema → Except Sql.Fault Unit)
    (run : Tables → Except Sql.Fault (α × Tables)) :
    (statement demands run).on s =
      match demands s.database.tables.schema, run s.database.tables with
      | .error fault, _ => (.error (.sql fault), s)
      | .ok (), .error fault => (.error (.sql fault), s)
      | .ok (), .ok (a, t) => (.ok a, s.withTables t) := by
  simp only [statement, bind_on, tables_on]
  cases demands s.database.tables.schema with
  | error fault => rfl
  | ok _ =>
    simp only
    cases run s.database.tables <;> rfl

theorem query_on (demands : Schema → Except Sql.Fault Unit) (read : Tables → α) :
    (query demands read).on s =
      match demands s.database.tables.schema with
      | .error fault => (.error (.sql fault), s)
      | .ok () => (.ok (read s.database.tables), s) := by
  rw [query, statement_on]
  cases demands s.database.tables.schema <;> rfl

/-- A transaction cannot be begun on a closed pool; one that fails puts the database back. -/
theorem transact_on (w : Work α) :
    (transact w).on s =
      if s.closed then (.error (.notBegun .poolClosed), s)
      else match w.on s with
        | (.ok a, s') => (.ok a, s')
        | (.error f, s') => (.error f, { s' with database := s.database }) := by
  have hb : begin.on s =
      if s.closed then (.error (.notBegun .poolClosed), s) else (.ok s.database, s) := by
    simp only [begin, bind_on, get_on]
    split <;> rfl
  rw [transact, bind_on, hb]
  cases s.closed with
  | true => rfl
  | false =>
    simp only [Bool.false_eq_true, if_false, tryCatch_on]
    rfl

theorem call_on (op : Operation) (w : Work α) :
    (call op w).on s =
      match s.plan.call op with
      | (some f, plan) => (.error f, { s with plan })
      | (none, plan) => w.on { s with plan } := by
  simp only [call, bind_on, get_on]
  obtain ⟨_ | _, _⟩ := s.plan.call op <;> rfl

variable {s}

theorem call_on_of_plan_nil (h : s.plan = []) (op : Operation) (w : Work α) :
    (call op w).on s = w.on s := by
  rw [call_on, h]
  show w.on { s with plan := [] } = _
  rw [← h]

@[simp] theorem forM_nil_on (s : Session) (g : β → Work Unit) :
    (([] : List β).forM g).on s = (.ok (), s) := rfl

theorem forM_cons_on (s : Session) (g : β → Work Unit) (b : β) (l : List β) :
    ((b :: l).forM g).on s =
      match (g b).on s with
      | (.ok (), s') => (l.forM g).on s'
      | (.error f, s') => (.error f, s') := by
  refine (bind_on s (g b) fun _ => l.forM g).trans ?_
  obtain ⟨_ | _, _⟩ := (g b).on s <;> rfl

theorem forM_append_on (s : Session) (g : β → Work Unit) (l more : List β) :
    ((l ++ more).forM g).on s =
      match (l.forM g).on s with
      | (.ok (), s') => (more.forM g).on s'
      | (.error f, s') => (.error f, s') := by
  refine (congrArg (fun w : Work Unit => w.on s) List.forM_append).trans ?_
  refine (bind_on s (l.forM g) fun _ => more.forM g).trans ?_
  obtain ⟨_ | _, _⟩ := (l.forM g).on s <;> rfl

end Work

namespace Store

open Work

theorem soughtAt_on {α : Type} (name : String) (w : Work α) (s : Session) :
    (soughtAt name w).on s =
      match w.on s with
      | (.ok a, s') => (.ok (some a), s')
      | (.error f, s') =>
        if f.isNotFound then (.ok none, s') else (.error (.stage name f), s') := by
  rw [soughtAt, tryCatch_on, map_on]
  obtain ⟨f | a, s'⟩ := w.on s
  · simp only [Except.map]
    cases f.isNotFound <;> rfl
  · rfl

end Store

end NetworkPolicy
