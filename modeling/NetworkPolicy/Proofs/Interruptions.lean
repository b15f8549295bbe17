import NetworkPolicy.Proofs.Atomicity
import NetworkPolicy.Proofs.Requests

namespace NetworkPolicy

/-- The session with one interruption to come. -/
def Session.awaiting (s : Session) (x : Interruption) : Session :=
  { s with plan := [x] }

namespace Work

/-- The work neither asks the plan nor changes it. -/
def Blind {α : Type} (w : Work α) : Prop :=
  ∀ (s : Session) (plan : Plan), w.on { s with plan } = ((w.on s).1, { (w.on s).2 with plan })

section Blind
variable {α β : Type} {w : Work α} {k : α → Work β}

theorem Blind.plan_eq (hw : w.Blind) (s : Session) : (w.on s).2.plan = s.plan :=
  congrArg (fun r => r.2.plan) (hw s s.plan)

theorem blind_pure (a : α) : (pure a : Work α).Blind := fun _ _ => rfl

theorem blind_throw (f : Failure) : (throw f : Work α).Blind := fun _ _ => rfl

theorem Blind.bind (hw : w.Blind) (hk : ∀ a, (k a).Blind) : (w >>= k).Blind := by
  intro s plan
  rw [bind_on, bind_on, hw s plan]
  rcases w.on s with ⟨f | a, s'⟩
  · rfl
  · exact hk a s' plan

theorem blind_statement (demands : Schema → Except Sql.Fault Unit)
    (run : Tables → Except Sql.Fault (α × Tables)) : (statement demands run).Blind := by
  intro s plan
  rw [statement_on, statement_on]
  cases demands s.database.tables.schema with
  | error fault => rfl
  | ok _ =>
    simp only
    cases run s.database.tables <;> rfl

theorem blind_query (demands : Schema → Except Sql.Fault Unit) (read : Tables → α) :
    (query demands read).Blind :=
  blind_statement demands _

theorem blind_slotOf (guid : String) : (Work.slotOf guid).Blind :=
  blind_query _ _

theorem blind_claimBy (give : Tables → Except Sql.Fault (Bool × Tables)) (guid : String) :
    (claimBy give guid).Blind := by
  refine (blind_slotOf guid).bind fun found => ?_
  cases found with
  | some slot => exact blind_pure _
  | none =>
    refine (blind_statement _ _).bind fun given => ?_
    cases given with
    | true =>
      refine (blind_slotOf guid).bind fun found => ?_
      cases found with
      | some slot => exact blind_pure _
      | none => exact blind_throw _
    | false =>
      exact (blind_query _ _).bind fun free => blind_throw _

theorem blind_destinationId (key : DestinationKey) : (destinationId key).Blind := by
  refine (blind_statement _ _).bind fun found => ?_
  cases found with
  | some d => exact blind_pure _
  | none => exact blind_throw _

end Blind

end Work

namespace Store

open Work

variable {s s' : Session} {c : Call} {op : Operation} {p : Policy}

namespace Call

theorem perform_eq (c : Call) :
    ∃ w : Work c.Answer, w.Blind ∧ c.perform = match c.operation? with
      | some op => Work.call op w
      | none => w := by
  cases c with
  | claimSource guid type => exact ⟨_, blind_claimBy _ guid, rfl⟩
  | claimDestination guid type => exact ⟨_, blind_claimBy _ guid, rfl⟩
  | readDestination key => exact ⟨_, blind_destinationId key, rfl⟩
  | findDestination key => exact ⟨_, blind_destinationId key, rfl⟩
  | lookupSource guid =>
    refine ⟨_, (blind_slotOf guid).bind fun found => ?_, rfl⟩
    cases found <;> exact fun _ _ => rfl
  | lookupDestination guid =>
    refine ⟨_, (blind_slotOf guid).bind fun found => ?_, rfl⟩
    cases found <;> exact fun _ _ => rfl
  | removePolicy p =>
    refine ⟨_, (blind_statement _ _).bind fun found => ?_, rfl⟩
    cases found <;> exact fun _ _ => rfl
  | insertDestination _ _ | recordRange _ | addPolicy _ | countByDestination _ | removeDestination _
  | countByGroup _ | countReferencing _ | dropRange _ | release _ =>
    exact ⟨_, blind_statement _ _, rfl⟩

theorem plan_perform (hs : s.plan = []) (c : Call) : (c.perform.on s).2.plan = [] := by
  obtain ⟨w, hw, hc⟩ := c.perform_eq
  rw [hc]
  cases c.operation? with
  | none => exact (hw.plan_eq s).trans hs
  | some op => rw [call_on_of_plan_nil hs, hw.plan_eq, hs]

theorem perform_awaiting (hs : s.plan = []) (c : Call) (x : Interruption) :
    (c.operation? = some x.operation ∧ c.perform.on (s.awaiting x) = (.error x.failure, s)) ∨
      ∃ k, c.perform.on (s.awaiting x) =
        ((c.perform.on s).1, (c.perform.on s).2.awaiting { x with before := k }) := by
  obtain ⟨w, hw, hc⟩ := c.perform_eq
  rw [hc]
  cases c.operation? with
  | none => exact .inr ⟨x.before, hw s [x]⟩
  | some op =>
    rw [call_on_of_plan_nil hs]
    have hon := call_on (s.awaiting x) op w
    by_cases hop : x.operation = op
    · cases hbefore : x.before with
      | zero =>
        have hplan : (s.awaiting x).plan.call op = (some x.failure, []) := by
          simp only [Session.awaiting, Plan.call, hop, hbefore, if_true]
        have hback : { s.awaiting x with plan := [] } = s := by
          rw [← hs]
          rfl
        simp only [hplan, hback] at hon
        exact .inl ⟨congrArg some hop.symm, hon⟩
      | succ k =>
        have hplan : (s.awaiting x).plan.call op = (none, [{ x with before := k }]) := by
          simp only [Session.awaiting, Plan.call, hop, hbefore, if_true]
        simp only [hplan] at hon
        exact .inr ⟨k, hon.trans (hw s _)⟩
    · have hplan : (s.awaiting x).plan.call op = (none, [x]) := by
        simp only [Session.awaiting, Plan.call, if_neg hop]
      simp only [hplan] at hon
      exact .inr ⟨x.before, hon.trans (hw s _)⟩

theorem mayMiss_iff (hop : c.operation? = some op) :
    c.mayMiss = true ↔ op ∈ [.lookup, .findDestination, .removePolicy] := by
  cases c <;> cases hop <;> simp [mayMiss]

end Call

theorem session_of_find {α β : Type} {demands : Schema → Except Sql.Fault Unit} {read : Tables → α}
    {k : α → Work β} (hk : ∀ a s, ((k a).on s).2 = s) (s : Session) :
    ((query demands read >>= k).on s).2 = s := by
  rw [bind_on, query_on]
  cases demands s.database.tables.schema with
  | error fault => rfl
  | ok _ => exact hk _ s

theorem session_lookup (hs : s.plan = []) (guid : String) : ((lookup guid).on s).2 = s := by
  rw [lookup, call_on_of_plan_nil hs]
  refine session_of_find (fun found s => ?_) s
  cases found <;> rfl

theorem session_findDestination (hs : s.plan = []) (key : DestinationKey) :
    ((Work.findDestination key).on s).2 = s := by
  rw [Work.findDestination, call_on_of_plan_nil hs]
  refine session_of_find (fun found s => ?_) s
  cases found <;> rfl

namespace Script

/-- The script comes to the call, in the session that the calls before it leave. -/
def Reaches : Script → Session → Call → Session → Prop
  | done, _, _, _ => False
  | call c next, s, c', s' =>
    (c' = c ∧ s' = s) ∨ ∃ a s₁, c.perform.on s = (.ok a, s₁) ∧ (next a).Reaches s₁ c' s'

/-- None of the calls may miss. -/
def Sure : Script → Prop
  | done => True
  | call c next => c.mayMiss = false ∧ ∀ a, (next a).Sure

variable {script : Script}

theorem Sure.mayMiss_eq_false (h : script.Sure) (hr : script.Reaches s c s') :
    c.mayMiss = false := by
  induction script generalizing s with
  | done => cases hr
  | call c₀ next ih =>
    rcases hr with ⟨rfl, -⟩ | ⟨a, s₁, -, hr⟩
    · exact h.1
    · exact ih a (h.2 a) hr

theorem Sure.release (h : script.Sure) (group : Int) : (Script.release group script).Sure := by
  refine ⟨rfl, fun policies => ⟨rfl, fun destinations => ?_⟩⟩
  dsimp only
  split
  · exact ⟨rfl, fun _ => ⟨rfl, fun _ => h⟩⟩
  · exact h

/-- By induction on the script: without a plan none is made. -/
theorem plan_play (hs : s.plan = []) (script : Script) : (script.play s).2.plan = [] := by
  induction script generalizing s with
  | done => exact hs
  | call c next ih =>
    have hplan := c.plan_perform hs
    rw [play]
    rcases hc : c.perform.on s with ⟨e | a, s₁⟩
    · rw [hc] at hplan
      simp only
      split <;> exact hplan
    · rw [hc] at hplan
      exact ih a hplan

/-- By induction on the script: the interruption comes at a call that the script reaches without it,
or the script is played as it is without one. -/
theorem play_awaiting (hs : s.plan = []) (script : Script) (x : Interruption) :
    (∃ c s', s'.plan = [] ∧ script.Reaches s c s' ∧ c.operation? = some x.operation ∧
      script.play (s.awaiting x) =
        if c.passesOver x.failure then (.ok (), s') else (.error (.stage c.stage x.failure), s')) ∨
      ∃ k, script.play (s.awaiting x) =
        ((script.play s).1, (script.play s).2.awaiting { x with before := k }) := by
  induction script generalizing s x with
  | done => exact .inr ⟨x.before, rfl⟩
  | call c next ih =>
    have hplan := c.plan_perform hs
    rcases c.perform_awaiting hs x with ⟨hop, hmet⟩ | ⟨k, hmet⟩
    · refine .inl ⟨c, s, hs, .inl ⟨rfl, rfl⟩, hop, ?_⟩
      rw [play, hmet]
    · rw [play, hmet, play]
      rcases hc : c.perform.on s with ⟨e | a, s₁⟩
      · refine .inr ⟨k, ?_⟩
        simp only
        split <;> rfl
      · rw [hc] at hplan
        rcases ih a hplan { x with before := k } with ⟨c', s', hs', hr, hop, hplay⟩ | ⟨k', hplay⟩
        · exact .inl ⟨c', s', hs', .inr ⟨a, s₁, hc, hr⟩, hop, hplay⟩
        · exact .inr ⟨k', hplay⟩

theorem reaches_delete (hs : s.plan = []) (hr : (Script.delete p).Reaches s c s')
    (hmiss : c.mayMiss = true) : s' = s := by
  rcases hr with ⟨-, rfl⟩ | ⟨source, s₁, hsource, hr⟩
  · rfl
  obtain rfl : s₁ = s := (congrArg Prod.snd hsource).symm.trans (session_lookup hs _)
  rcases hr with ⟨-, rfl⟩ | ⟨group, s₂, hgroup, hr⟩
  · rfl
  obtain rfl : s₂ = s₁ := (congrArg Prod.snd hgroup).symm.trans (session_lookup hs _)
  rcases hr with ⟨-, rfl⟩ | ⟨destination, s₃, hdestination, hr⟩
  · rfl
  obtain rfl : s₃ = s₂ :=
    (congrArg Prod.snd hdestination).symm.trans (session_findDestination hs _)
  rcases hr with ⟨-, rfl⟩ | ⟨_, s₄, -, hr⟩
  · rfl
  -- from here on a failure is one of the whole deletion
  have hdone : Script.done.Sure := trivial
  have hsure : (Script.release source (Script.release group .done)).Sure :=
    (hdone.release group).release source
  rcases hr with ⟨rfl, -⟩ | ⟨left, s₅, -, hr⟩
  · cases hmiss
  dsimp only at hr
  split at hr
  · rcases hr with ⟨rfl, -⟩ | ⟨_, s₆, -, hr⟩
    · cases hmiss
    · rw [hsure.mayMiss_eq_false hr] at hmiss
      cases hmiss
  · rw [hsure.mayMiss_eq_false hr] at hmiss
    cases hmiss

end Script

/-- By induction on the batch: without a plan none is made. -/
theorem plan_deleteAll (hs : s.plan = []) (batch : List Policy) :
    ((batch.forM deletePolicy).on s).2.plan = [] := by
  induction batch generalizing s with
  | nil => exact hs
  | cons p rest ih =>
    have hplan := Script.plan_play hs (Script.delete p)
    rw [forM_cons_on, deletePolicy_on]
    rcases hplay : (Script.delete p).play s with ⟨e | _, s₁⟩ <;> rw [hplay] at hplan
    · exact hplan
    · exact ih hplan

/-- By induction on the batch: either the interruption came or the batch is deleted as it is without
one. -/
theorem deleteAll_awaiting (hs : s.plan = []) (batch : List Policy) (x : Interruption) :
    ((batch.forM deletePolicy).on (s.awaiting x)).2.plan = [] ∨
      ∃ k, (batch.forM deletePolicy).on (s.awaiting x) =
        (((batch.forM deletePolicy).on s).1,
          ((batch.forM deletePolicy).on s).2.awaiting { x with before := k }) := by
  induction batch generalizing s x with
  | nil => exact .inr ⟨x.before, rfl⟩
  | cons p rest ih =>
    have hplan := Script.plan_play hs (Script.delete p)
    rw [forM_cons_on, forM_cons_on, deletePolicy_on, deletePolicy_on]
    rcases Script.play_awaiting hs (Script.delete p) x with ⟨c, s', hs', -, -, hplay⟩ | ⟨k, hplay⟩
    · left
      rw [hplay]
      by_cases hpassed : c.passesOver x.failure = true
      · rw [if_pos hpassed]
        exact plan_deleteAll hs' rest
      · rw [if_neg hpassed]
        exact hs'
    · rw [hplay]
      rcases hnext : (Script.delete p).play s with ⟨e | _, s₁⟩ <;> rw [hnext] at hplan
      · exact .inr ⟨k, rfl⟩
      · exact ih hplan { x with before := k }

end Store

namespace Session

open Store

/-- The interruption comes while the policy is deleted, and not before. -/
def InterruptedAt (s : Session) (earlier : List Policy) (p : Policy) : Prop :=
  ((earlier.forM deletePolicy).on s).2.plan ≠ [] ∧
    (((earlier ++ [p]).forM deletePolicy).on s).2.plan = []

instance (s : Session) (earlier : List Policy) (p : Policy) :
    Decidable (s.InterruptedAt earlier p) :=
  inferInstanceAs (Decidable (_ ∧ _))

namespace Serves

variable {size : Nat} {s : Session} {x : Interruption} {earlier later : List Policy} {p : Policy}

theorem interruptedAt_cases (h : s.Serves size) (hat : (s.awaiting x).InterruptedAt earlier p) :
    ∃ s₁ c s' k, (earlier.forM deletePolicy).on s = (.ok (), s₁) ∧ s₁.plan = [] ∧
      (earlier.forM deletePolicy).on (s.awaiting x) =
        (.ok (), s₁.awaiting { x with before := k }) ∧
      (Script.delete p).Reaches s₁ c s' ∧ c.operation? = some x.operation ∧
      (deletePolicy p).on (s₁.awaiting { x with before := k }) =
        if c.passesOver x.failure then (.ok (), s') else (.error (.stage c.stage x.failure), s') := by
  obtain ⟨hbefore, hthen⟩ := hat
  have hstruck : (earlier.forM deletePolicy).on s =
      (.ok (), s.withTables (s.database.tables.strikeAll (earlier.map Policy.key))) :=
    deleteAll_withTables h.plan h.sound earlier
  have hs₁ := plan_deleteAll h.plan earlier
  rcases deleteAll_awaiting h.plan earlier x with hplan | ⟨k, hearlier⟩
  · exact absurd hplan hbefore
  rw [hstruck] at hearlier hs₁
  generalize s.withTables (s.database.tables.strikeAll (earlier.map Policy.key)) = s₁ at *
  rw [Work.forM_append_on, hearlier] at hthen
  simp only [Work.forM_cons_on, deletePolicy_on, Work.forM_nil_on] at hthen
  rcases Script.play_awaiting hs₁ (Script.delete p) { x with before := k } with
    ⟨c, s', -, hr, hop, hplay⟩ | ⟨k', hplay⟩
  · exact ⟨s₁, c, s', k, hstruck, hs₁, hearlier, hr, hop, (deletePolicy_on _ _).trans hplay⟩
  · -- the interruption would still be to come
    rw [hplay] at hthen
    rcases hplayed : (Script.delete p).play s₁ with ⟨e | _, s'⟩ <;> rw [hplayed] at hthen <;>
      cases hthen

/-- A row that is reported as missing where the policy is looked for: the batch is deleted without
the policy. -/
theorem delete_passing (h : s.Serves size) (hat : (s.awaiting x).InterruptedAt earlier p)
    (hmissed : x.failure.isNotFound = true)
    (hop : x.operation ∈ [.lookup, .findDestination, .removePolicy]) :
    (Store.delete (earlier ++ p :: later)).on (s.awaiting x) =
      (Store.delete (earlier ++ later)).on s := by
  obtain ⟨s₁, c, s', k, hstruck, hs₁, hearlier, hr, hc, hp⟩ := h.interruptedAt_cases hat
  have hmiss : c.mayMiss = true := (Call.mayMiss_iff hc).2 hop
  have hpassed : c.passesOver x.failure = true := by rw [Call.passesOver, hmiss, hmissed]; rfl
  rw [if_pos hpassed, Script.reaches_delete hs₁ hr hmiss] at hp
  have hforM : ((earlier ++ p :: later).forM deletePolicy).on (s.awaiting x) =
      ((earlier ++ later).forM deletePolicy).on s := by
    rw [Work.forM_append_on, Work.forM_append_on, hearlier, hstruck]
    simp only
    rw [Work.forM_cons_on, hp]
  have hclosed : (s.awaiting x).closed = false := h.isOpen
  have hdatabase : (s.awaiting x).database = s.database := rfl
  rw [Store.delete, Store.delete, Work.transact_on, Work.transact_on, hforM, hclosed, h.isOpen,
    hdatabase]
  rfl

/-- A failure at any other call ends the deletion, and the database is as it was. -/
theorem delete_failing (h : s.Serves size) (hat : (s.awaiting x).InterruptedAt earlier p)
    (hop : x.operation ∉ [.lookup, .findDestination, .removePolicy]) :
    ∃ (c : Store.Call) (s' : Session), c.operation? = some x.operation ∧
      (Store.delete (earlier ++ p :: later)).on (s.awaiting x) =
        (.error (.stage c.stage x.failure), s') ∧ s'.database = s.database := by
  obtain ⟨s₁, c, s', k, -, -, hearlier, -, hc, hp⟩ := h.interruptedAt_cases hat
  have hmiss : c.mayMiss ≠ true := mt (Call.mayMiss_iff hc).1 hop
  have hnot : c.passesOver x.failure ≠ true := by
    simp only [Call.passesOver, Bool.eq_false_iff.2 hmiss, Bool.false_and, ne_eq,
      Bool.false_eq_true, not_false_eq_true]
  rw [if_neg hnot] at hp
  have hclosed : (s.awaiting x).closed = false := h.isOpen
  refine ⟨c, { s' with database := s.database }, hc, ?_, rfl⟩
  rw [Store.delete, Work.transact_on, hclosed, Work.forM_append_on, hearlier]
  simp only [Work.forM_cons_on, hp]
  rfl

end Serves

end Session

/-- One interruption comes while a policy of a batch is deleted, and reports a row as missing. Where
the policy is looked for, this leaves what the rest of the batch leaves; where rows are counted,
dropped or given back, the deletion fails and leaves everything. -/
theorem missed_row_leaves_policy_out (n : TagLength) (requests : List Request)
    (earlier later : List Policy) (p : Policy) (x : Interruption)
    (hmissed : x.failure.isNotFound = true)
    (hat : ((served n requests).awaiting x).InterruptedAt earlier p) :
    (x.operation ∈ [.lookup, .findDestination, .removePolicy] →
      ∃ s', (Store.delete (earlier ++ p :: later)).on ((served n requests).awaiting x) =
          (.ok (), s') ∧
        (Store.delete (earlier ++ later)).on (served n requests) = (.ok (), s')) ∧
    (x.operation ∈ [.countByDestination, .removeDestination, .countByGroup, .countReferencing,
        .dropRange, .release] →
      ∃ (c : Store.Call) (s' : Session), c.operation? = some x.operation ∧
        (Store.delete (earlier ++ p :: later)).on ((served n requests).awaiting x) =
          (.error (.stage c.stage x.failure), s') ∧
        s'.database = (served n requests).database) := by
  have h := serves_served n requests
  constructor
  · intro hop
    have hdeleted := h.delete (earlier ++ later)
    exact ⟨_, (h.delete_passing hat hmissed hop).trans hdeleted, hdeleted⟩
  · intro hop
    refine h.delete_failing hat fun hmiss => ?_
    revert hop hmiss
    cases x.operation <;> decide

def ring : List Policy := [
  Store.link "a" "b" "tcp" 80, Store.link "b" "c" "udp" 53, Store.link "c" "a" "tcp" 443]

/-- The second policy of the ring is reported as missing, under a stage, when its row is removed: it
stays, and the others go. That its group is not found when it is given back is a failure. -/
theorem missed_row_leaves_policy_out_of_ring :
    let s := served { bytes := 1 } [.create ring]
    let missed : Interruption := ⟨.removePolicy, 1, .stage "inner" .notFound⟩
    let unfreed : Interruption := ⟨.release, 0, .notFound⟩
    (s.awaiting missed).InterruptedAt (ring.take 1) (Store.link "b" "c" "udp" 53) ∧
      (∃ s', (Store.delete ring).on (s.awaiting missed) = (.ok (), s') ∧
        (Store.delete (ring.eraseIdx 1)).on s = (.ok (), s') ∧
        s'.database.tables.keys = [(Store.link "b" "c" "udp" 53).key]) ∧
      (s.awaiting unfreed).InterruptedAt (ring.take 1) (Store.link "b" "c" "udp" 53) ∧
      ∃ s', (Store.delete ring).on (s.awaiting unfreed) =
          (.error (.stage "deleting group row" .notFound), s') ∧
        s'.database = s.database := by
  intro s missed unfreed
  have h := serves_served { bytes := 1 } []
  have hs : s = _ := (h.after_create ring).trans (by rw [served_nil])
  have hmissed : (s.awaiting missed).InterruptedAt (ring.take 1) (Store.link "b" "c" "udp" 53) := by
    rw [hs]
    decide +kernel
  have hunfreed : (s.awaiting unfreed).InterruptedAt (ring.take 1)
      (Store.link "b" "c" "udp" 53) := by
    rw [hs]
    decide +kernel
  have hleft := (serves_served { bytes := 1 } [.create ring]).delete (ring.eraseIdx 1)
  obtain ⟨s', hdeleted, hwithout⟩ := (missed_row_leaves_policy_out { bytes := 1 } [.create ring]
    (ring.take 1) (ring.drop 2) (Store.link "b" "c" "udp" 53) missed rfl hmissed).1 (by decide)
  obtain ⟨c, s'', hc, hfailed, hback⟩ := (missed_row_leaves_policy_out { bytes := 1 }
    [.create ring] (ring.take 1) (ring.drop 2) (Store.link "b" "c" "udp" 53) unfreed rfl
    hunfreed).2 (by decide)
  refine ⟨hmissed, ⟨s', hdeleted, hwithout, ?_⟩, hunfreed, s'', ?_, hback⟩
  · obtain rfl : s' = _ := congrArg Prod.snd (hwithout.symm.trans hleft)
    rw [Session.withTables_tables, tables_served]
    decide +kernel
  · have hstage : c.stage = "deleting group row" := by
      cases c <;> cases hc
      rfl
    rw [← hstage]
    exact hfailed

end NetworkPolicy
