import NetworkPolicy.Proofs.Requests

namespace NetworkPolicy

structure Ledger where
  keys : List Policy.Key := []
  guids : Finset String := ∅

/-- How a request is answered: it is done, slots are wanting for it, or it is refused. -/
inductive Answer where
  | done
  | exhausted
  | refused
  deriving DecidableEq

def Answer.of {α : Type} : Except Failure α → Answer
  | .ok _ => done
  | .error f => if f.isPoolExhausted then exhausted else refused

namespace Ledger

/-- The keys of a batch that are new, each once, in the order in which they come first. -/
def newKeys (keys : List Policy.Key) (batch : List Policy) : List Policy.Key :=
  ((batch.map Policy.key).filter (· ∉ keys)).eraseDups

/-- The answer to a request, where there are `size` slots, and the ledger after it. -/
def respond (size : Nat) (l : Ledger) : Request → Answer × Ledger
  | .setUp bytes => (if 1 ≤ bytes ∧ bytes ≤ 3 then .done else .refused, l)
  | .create batch =>
    let guids := l.guids ∪ Policy.allIds batch
    if size < guids.card then (.exhausted, l)
    else (.done, { keys := l.keys ++ newKeys l.keys batch, guids })
  | .delete batch =>
    let keys := l.keys.filter (· ∉ batch.map Policy.key)
    (.done, { keys, guids := l.guids.filter fun guid => ¬ Policy.Key.Leaves l.keys keys guid })
  | .createTag _ guid _ =>
    let guids := insert guid l.guids
    if size < guids.card then (.exhausted, l) else (.done, { l with guids })

def after (size : Nat) (requests : List Request) : Ledger :=
  requests.foldl (fun l r => (l.respond size r).2) {}

theorem foldl_noted (keys more : List Policy.Key) :
    more.foldl Policy.Key.noted keys = keys ++ (more.filter (· ∉ keys)).eraseDups := by
  induction more generalizing keys with
  | nil => simp
  | cons k rest ih =>
    rw [List.foldl_cons, ih, Policy.Key.noted]
    by_cases hk : k ∈ keys
    · rw [if_pos hk, List.filter_cons_of_neg (by simpa using hk)]
    · -- from now on the key counts as noted, as it does when repetitions are left out
      have hrest : rest.filter (· ∉ keys ++ [k]) =
          (rest.filter (· ∉ keys)).filter fun b => !b == k := by
        rw [List.filter_filter]
        apply List.filter_congr
        intro b _
        by_cases hb : b = k
        · simp [hb]
        · simp [hb]
      rw [if_neg hk, List.filter_cons_of_pos (by simpa using hk), List.eraseDups_cons, hrest,
        List.append_assoc]
      rfl

end Ledger

/-- What the tables come to, where no request can tell slots and rows apart. -/
def Tables.ledger (t : Tables) : Ledger :=
  ⟨t.keys, t.holders⟩

/-- Listings show what the ledger notes, with tags of any length. -/
def Session.Shows (s : Session) (l : Ledger) : Prop :=
  l.keys.Nodup ∧ ∀ n : TagLength,
    (∃ listed, (Store.all n).on s = (.ok listed, s) ∧ listed.map Policy.key = l.keys) ∧
    ∃ tags, (Store.tags n).on s = (.ok tags, s) ∧ (tags.map (·.id)).Nodup ∧
      (tags.map (·.id)).toFinset = l.guids

/-- The answer to the request is that of the ledger, which is then the ledger of the tables. -/
def Session.Follows (s : Session) (size : Nat) (r : Request) : Prop :=
  Answer.of (r.work.on s).1 = (s.database.tables.ledger.respond size r).1 ∧
    (s.after r).database.tables.ledger = (s.database.tables.ledger.respond size r).2

namespace Session.Serves

open Work

variable {size : Nat} {s : Session}

theorem shows (h : s.Serves size) : s.Shows s.database.tables.ledger := by
  have hc := h.sound.toCoherent
  refine ⟨Tables.nodup_keys hc, fun n => ⟨⟨_, h.all n, Tables.map_key_policy hc⟩, ?_⟩⟩
  refine ⟨_, h.tags n, ?_, ?_⟩
  · rw [Tables.map_id_tags]
    exact Tables.nodup_guids hc.pool
  · rw [Tables.map_id_tags]
    rfl

theorem follows_setUp (h : s.Serves size) (bytes : Nat) : s.Follows size (.setUp bytes) := by
  rw [Session.Follows, Session.after, Request.work, map_on, Ledger.respond]
  by_cases hb : 1 ≤ bytes ∧ bytes ≤ 3
  · have hopened := h.setUp ⟨bytes, hb.1, hb.2⟩
    rw [hopened, if_pos hb]
    exact ⟨rfl, rfl⟩
  · rw [Store.setUp_refused hb, if_neg hb]
    exact ⟨rfl, rfl⟩

theorem follows_create (h : s.Serves size) (batch : List Policy) :
    s.Follows size (.create batch) := by
  have hfull : s.database.tables.enterAll batch = none ↔
      size < (s.database.tables.ledger.guids ∪ Policy.allIds batch).card :=
    Tables.enterAll_eq_none h.sound
  rw [Session.Follows, Session.after, Request.work, h.create, Ledger.respond]
  cases he : s.database.tables.enterAll batch with
  | none =>
    simp only [if_pos (hfull.1 he)]
    exact ⟨rfl, trivial⟩
  | some t =>
    obtain ⟨-, hkeys, hholders⟩ := h.sound.enterAll he
    have hfits : ¬ size < (s.database.tables.ledger.guids ∪ Policy.allIds batch).card := by
      intro hlt
      rw [hfull.2 hlt] at he
      cases he
    simp only [if_neg hfits]
    refine ⟨rfl, ?_⟩
    rw [Session.withTables_tables, Tables.ledger, hkeys, hholders, Ledger.foldl_noted]
    rfl

theorem follows_delete (h : s.Serves size) (batch : List Policy) :
    s.Follows size (.delete batch) := by
  rw [Session.Follows, Session.after, Request.work, h.delete, Ledger.respond]
  refine ⟨rfl, ?_⟩
  have hkeys := Tables.keys_strikeAll h.sound (batch.map Policy.key)
  have hholders : (s.database.tables.strikeAll (batch.map Policy.key)).holders =
      s.database.tables.holders.filter fun guid => ¬ Policy.Key.Leaves s.database.tables.keys
        (s.database.tables.keys.filter (· ∉ batch.map Policy.key)) guid := by
    ext g
    rw [Finset.mem_filter, Tables.mem_holders_strikeAll h.sound, hkeys]
  rw [Session.withTables_tables, Tables.ledger, hkeys, hholders]
  rfl

theorem follows_createTag (h : s.Serves size) (n : TagLength) (guid type : String) :
    s.Follows size (.createTag n guid type) := by
  have hmade := h.createTag n guid type
  have hfull : s.database.tables.claim guid (typeOrDefault type) = none ↔
      size < (insert guid s.database.tables.ledger.guids).card :=
    Tables.claim_eq_none_iff_card h.sound.toCoherent
  rw [Session.Follows, Session.after, Request.work, map_on, Ledger.respond]
  cases hc : s.database.tables.claim guid (typeOrDefault type) with
  | none =>
    rw [hc] at hmade
    rw [hmade]
    simp only [if_pos (hfull.1 hc)]
    exact ⟨rfl, trivial⟩
  | some found =>
    have hfits : ¬ size < (insert guid s.database.tables.ledger.guids).card := by
      intro hlt
      rw [hfull.2 hlt] at hc
      cases hc
    rw [hc] at hmade
    obtain ⟨tag, hmade, -⟩ := hmade
    rw [hmade]
    simp only [if_neg hfits]
    refine ⟨rfl, ?_⟩
    have hkeys := Tables.keys_claim h.sound.toCoherent hc
    rw [Session.withTables_tables, Tables.ledger, hkeys, Tables.holders_claim h.sound.toCoherent hc]
    rfl

theorem follows (h : s.Serves size) (r : Request) : s.Follows size r := by
  cases r with
  | setUp bytes => exact h.follows_setUp bytes
  | create batch => exact h.follows_create batch
  | delete batch => exact h.follows_delete batch
  | createTag n guid type => exact h.follows_createTag n guid type

end Session.Serves

/-- By induction on the requests: the tables come to the ledger of the same requests. -/
theorem ledger_served (n : TagLength) (requests : List Request) :
    (served n requests).database.tables.ledger = Ledger.after n.poolSize requests := by
  induction requests using List.reverseRecOn with
  | nil =>
    have hopened : served n [] = (Store.asked {}).withRecord (.fresh n.poolSize)
        (Migration.idsOf Migration.steps) := by
      rw [served, List.foldl_nil, Session.after, Request.work, Work.map_on,
        Store.setUp_empty rfl rfl]
    have hholders : (Tables.fresh n.poolSize).holders = ∅ := by
      rw [Tables.holders, Tables.guids_fresh]
      rfl
    rw [hopened]
    show (⟨[], (Tables.fresh n.poolSize).holders⟩ : Ledger) = {}
    rw [hholders]
  | append_singleton earlier r ih =>
    have hserved : served n (earlier ++ [r]) = (served n earlier).after r := by
      rw [served, List.foldl_append]
      rfl
    rw [hserved, ((serves_served n earlier).follows r).2, ih, Ledger.after, Ledger.after,
      List.foldl_append]
    rfl

/-- A store answers every request as a ledger does that has been told the same, and shows what the
ledger notes; there are as many slots as the first opening made. -/
theorem served_simulates_ledger (n : TagLength) (requests : List Request) :
    let size := (served n []).database.tables.slots.length
    (served n requests).Shows (Ledger.after size requests) ∧
      ∀ r : Request, Answer.of (r.work.on (served n requests)).1 =
        ((Ledger.after size requests).respond size r).1 := by
  intro size
  have hsize : size = n.poolSize := (serves_served n []).sound.pool.length_eq
  have h := serves_served n requests
  rw [hsize, ← ledger_served]
  exact ⟨h.shows, fun r => (h.follows r).1⟩

/-- Of two slots a third guid gets one only when the policy between the first two is gone. -/
example :
    let p : Policy :=
      { source := { id := "a" }, destination := { id := "b", protocol := "tcp", port := 80 } }
    let third : Request := .createTag { bytes := 1 } "c" ""
    ((Ledger.after 2 [.create [p]]).respond 2 third).1 = .exhausted ∧
      ((Ledger.after 2 [.create [p], .delete [p]]).respond 2 third).1 = .done := by
  decide

end NetworkPolicy
